import Mathlib.Algebra.Order.Group.Multiset
import Mathlib.Tactic.Abel
import TelemetryExporter.Verify.FunctionSpans

/-!
# The spans that are emitted

`emit_trigger_and_invocation_spans` after a run: what of the received spans reaches the output
buffers, and with which attributes.
-/

namespace TelemetryExporter

open Machine

/-! ## Attributes -/

/-- The four `cx.internal` keys. -/
def isInternalKey (key : String) : Bool :=
  key = spanRoleAttribute ∨ key = spanStateAttribute ∨ key = spanIdAttribute ∨ key = traceIdAttribute

/-- Whether the configuration excludes the key. -/
def TelemetryProcessorConfig.excludesKey (config : TelemetryProcessorConfig) (key : String) : Bool :=
  config.excludedSpanAttributes.toRegex.any fun isMatch => isMatch key

/-- Whether an attribute of a received span is kept. -/
def keepsAttribute (config : TelemetryProcessorConfig) (attr : KeyValue) : Bool :=
  !isInternalKey attr.key && !config.excludesKey attr.key

/-- The attribute that `add_language_attribute_to_span` adds. -/
def languageKeyValue (language : Value) : KeyValue :=
  { key := languageAttribute, value := some ⟨some language⟩ }

theorem read_newAttributes (marks : SpanMarks) (attr : KeyValue) :
    (marks.read attr).newAttributes =
      marks.newAttributes ++ [attr].filter fun attr => !isInternalKey attr.key := by
  unfold SpanMarks.read isInternalKey
  by_cases hrole : attr.key = spanRoleAttribute
  · simp [hrole]
  by_cases hstate : attr.key = spanStateAttribute
  · rw [if_neg hrole, if_pos hstate]
    split <;> simp [hstate]
  by_cases hspan : attr.key = spanIdAttribute
  · rw [if_neg hrole, if_neg hstate, if_pos hspan]
    simp [hspan]
  by_cases htrace : attr.key = traceIdAttribute
  · rw [if_neg hrole, if_neg hstate, if_neg hspan, if_pos htrace]
    simp [htrace]
  rw [if_neg hrole, if_neg hstate, if_neg hspan, if_neg htrace]
  split <;> simp [hrole, hstate, hspan, htrace]

/-- The loop of `process_and_categorize_span` removes the internal attributes. -/
theorem readMarks_newAttributes (attributes : List KeyValue) :
    (readMarks attributes).newAttributes = attributes.filter fun attr => !isInternalKey attr.key := by
  have hfold (marks : SpanMarks) : (attributes.foldl SpanMarks.read marks).newAttributes =
      marks.newAttributes ++ attributes.filter fun attr => !isInternalKey attr.key := by
    induction attributes generalizing marks with
    | nil => exact (List.append_nil _).symm
    | cons attr rest ih =>
      rw [List.foldl_cons, ih, read_newAttributes, List.append_assoc, ← List.filter_append]
      rfl
  exact hfold {}

/-- An early span with a role gets the ids of its attributes, other spans keep theirs. -/
theorem processAndCategorizeSpan_span (span : Span) :
    (processAndCategorizeSpan span).1 =
      if (readMarks span.attributes).spanRole.isSome ∧ (readMarks span.attributes).isEarlySpan then
        overrideIds (readMarks span.attributes)
          { span with attributes := (readMarks span.attributes).newAttributes }
      else { span with attributes := (readMarks span.attributes).newAttributes } := by
  unfold processAndCategorizeSpan
  dsimp only
  cases hrole : (readMarks span.attributes).spanRole with
  | none =>
    have hno : ¬ ((none : Option String).isSome = true ∧
        (readMarks span.attributes).isEarlySpan = true) := fun h => by cases h.1
    rw [if_neg hno]
    dsimp only
    split <;> rfl
  | some role =>
    dsimp only
    cases hearly : (readMarks span.attributes).isEarlySpan with
    | true =>
      rw [if_pos rfl, if_pos (by simp)]
      split <;> rfl
    | false =>
      rw [if_neg Bool.false_ne_true, if_neg (by simp)]
      split <;> rfl

theorem overrideIds_eq (marks : SpanMarks) (span : Span) :
    overrideIds marks span =
      { span with
        spanId := (marks.extraSpanId.bind hexDecode).getD span.spanId
        traceId := (marks.extraTraceId.bind hexDecode).getD span.traceId } := by
  unfold overrideIds
  cases marks.extraSpanId.bind hexDecode <;> cases marks.extraTraceId.bind hexDecode <;> rfl

/-- A span is captured or forwarded with the attributes that are kept, in order. -/
theorem prepared_attributes (config : TelemetryProcessorConfig) (received : SpanWithScope) :
    (received.prepared config).span.attributes =
      received.span.attributes.filter (keepsAttribute config) := by
  have hread : (processAndCategorizeSpan received.span).1.attributes =
      received.span.attributes.filter fun attr => !isInternalKey attr.key := by
    rw [processAndCategorizeSpan_span, ← readMarks_newAttributes]
    split
    · rw [overrideIds_eq]
    · rfl
  unfold SpanWithScope.prepared filterSpanAttributes keepsAttribute
    TelemetryProcessorConfig.excludesKey
  cases config.excludedSpanAttributes.toRegex with
  | none =>
    simp only [Option.any_none, Bool.not_false, Bool.and_true]
    exact hread
  | some isMatch =>
    simp only [Option.any_some]
    rw [hread, List.filter_filter]
    exact List.filter_congr fun attr _ => Bool.and_comm _ _

/-! ## Emission -/

section

variable {config : TelemetryProcessorConfig} {data : PlatformRuntimeDoneData}
  {state : InvocationTracingState}

/-- The trigger span that is emitted. -/
def triggerOf (data : PlatformRuntimeDoneData) (state : InvocationTracingState) :
    Option SpanWithScope :=
  state.cxTriggerSpan.or (state.cxEarlyTriggerSpan.map fun s =>
    { s with span := concludeEarlySpanWithRuntimeStatus data s.span })

/-- The invocation span that is emitted. -/
def invocationOf (data : PlatformRuntimeDoneData) (state : InvocationTracingState) :
    Option SpanWithScope :=
  ((state.cxInvocationSpan.or (state.cxEarlyInvocationSpan.map fun s =>
    { s with span := concludeEarlySpanWithRuntimeStatus data s.span })).or
      state.genericInvocationSpan).map fun s =>
    { s with span := addLanguageAttributeToSpan state s.span }

/-- The generic span that is emitted as a regular one. -/
def demotedOf (state : InvocationTracingState) : Option SpanWithScope :=
  if state.cxInvocationSpan.isSome ∨ state.cxEarlyInvocationSpan.isSome then
    state.genericInvocationSpan
  else none

theorem scopedSpans_emittedSpans (data : PlatformRuntimeDoneData) (state : InvocationTracingState) :
    scopedSpans (emittedSpans data state) =
      (triggerOf data state).toList ++ (invocationOf data state).toList ++
        (demotedOf state).toList := by
  have htrigger : scopedSpans (emitTriggerSpan data state) = (triggerOf data state).toList := by
    unfold emitTriggerSpan triggerOf
    cases state.cxTriggerSpan <;> cases state.cxEarlyTriggerSpan <;> rfl
  have hinvocation : scopedSpans (emitInvocationSpan data state) =
      (invocationOf data state).toList := by
    unfold emitInvocationSpan invocationOf
    cases state.cxInvocationSpan <;> cases state.cxEarlyInvocationSpan <;>
      cases state.genericInvocationSpan <;> rfl
  have hdemoted : scopedSpans (emitUnexpectedGenericSpan state) = (demotedOf state).toList := by
    unfold emitUnexpectedGenericSpan demotedOf
    split
    · cases state.genericInvocationSpan <;> rfl
    · rfl
  unfold emittedSpans
  rw [scopedSpans_append, scopedSpans_append, htrigger, hinvocation, hdemoted]

theorem addLanguage_attributes (span : Span) :
    (addLanguageAttributeToSpan state span).attributes =
      span.attributes ++ (state.language.map languageKeyValue).toList := by
  unfold addLanguageAttributeToSpan
  cases state.language with
  | none => exact (List.append_nil _).symm
  | some language => rfl

end

/-! ## Conservation -/

/-- The first received span of a role. -/
def firstOf (received : List SpanWithScope) (role : SpanRole) : Option SpanWithScope :=
  received.find? fun x => x.role = some role

/-- The span that becomes the invocation span: the final one, else the early one, else a generic
one. -/
def invocationSpanOf (received : List SpanWithScope) : Option SpanWithScope :=
  ((firstOf received .invocation).or (firstOf received .earlyInvocation)).or
    (firstOf received .generic)

/-- The spans that are not emitted: warmup spans, and early spans whose final span came. -/
def droppedSpans (received : List SpanWithScope) : List SpanWithScope :=
  received.filter SpanWithScope.isWarmup ++
    ((if (firstOf received .trigger).isSome then (firstOf received .earlyTrigger).toList else []) ++
    (if (firstOf received .invocation).isSome then (firstOf received .earlyInvocation).toList else []))

/-- An early span with the status and the end of the runtime. -/
def SpanWithScope.concluded (data : PlatformRuntimeDoneData) (x : SpanWithScope) : SpanWithScope :=
  { x with span := concludeEarlySpanWithRuntimeStatus data x.span }

/-- What is made of a received span that is not the invocation span. -/
def Rewrites (config : TelemetryProcessorConfig) (data : PlatformRuntimeDoneData)
    (received emitted : SpanWithScope) : Prop :=
  emitted.scope = received.scope ∧
    (emitted = received.prepared config ∨
      received.category = .cxEarlyTrigger ∧ emitted = (received.prepared config).concluded data)

/-- What is made of the invocation span. -/
def emittedInvocation (config : TelemetryProcessorConfig) (data : PlatformRuntimeDoneData)
    (state : InvocationTracingState) (received : SpanWithScope) : SpanWithScope :=
  let x :=
    if received.category = .cxEarlyInvocation then (received.prepared config).concluded data
    else received.prepared config
  { x with span := addLanguageAttributeToSpan state x.span }

theorem firstOf_eq_slot (received : List SpanWithScope) (role : SpanRole) :
    (captureSpans (fun _ => none) received).1 role = firstOf received role := by
  rw [Capture.slot_eq, Option.none_or]
  unfold firstOf
  congr 1
  funext x
  cases hwarmup : x.isWarmup with
  | false => rfl
  | true =>
    have hrole : x.role = none := by
      unfold SpanWithScope.role
      rw [of_decide_eq_true hwarmup]
      rfl
    rw [hrole]
    rfl

/-- The role decides the category. -/
theorem category_of_firstOf {received : List SpanWithScope} {role : SpanRole} {x : SpanWithScope}
    (h : firstOf received role = some x) : x.category.role = some role := by
  unfold firstOf at h
  have hrole := List.find?_some h
  exact of_decide_eq_true hrole

section

variable {config : TelemetryProcessorConfig} {data : PlatformRuntimeDoneData}
  {state : InvocationTracingState} {received : List SpanWithScope}

/-- The received spans that are emitted and are not the invocation span. -/
def otherSpans (received : List SpanWithScope) : List SpanWithScope :=
  (captureSpans (fun _ => none) received).2 ++
    (((firstOf received .trigger).or (firstOf received .earlyTrigger)).toList ++
    (if (firstOf received .invocation).isSome ∨ (firstOf received .earlyInvocation).isSome then
      (firstOf received .generic).toList
    else []))

theorem captured_spanRoles (slots : SpanRole → Option SpanWithScope) :
    (Capture.captured spanRoles slots : Multiset SpanWithScope) =
      (slots .earlyTrigger).toList + ((slots .earlyInvocation).toList + ((slots .trigger).toList +
        ((slots .invocation).toList + ((slots .generic).toList : Multiset SpanWithScope)))) := by
  unfold Capture.captured spanRoles
  simp only [List.flatMap_cons, List.flatMap_nil, List.append_nil, ← Multiset.coe_add]

/-- The received spans are those emitted and those dropped. -/
theorem otherSpans_perm (received : List SpanWithScope) :
    (otherSpans received ++ ((invocationSpanOf received).toList ++ droppedSpans received)).Perm
      received := by
  have hcaptured : ((captureSpans (fun _ => none) received).2 ++
      Capture.captured spanRoles (captureSpans (fun _ => none) received).1).Perm
      (received.filter (fun x => !x.isWarmup) ++ Capture.captured spanRoles (fun _ => none)) :=
    Capture.forwarded_perm nodup_spanRoles mem_spanRoles _ _
  have hkept := Multiset.coe_eq_coe.2 hcaptured
  have hall := Multiset.coe_eq_coe.2 (List.filter_append_perm SpanWithScope.isWarmup received)
  rw [← Multiset.coe_add, ← Multiset.coe_add, captured_spanRoles, captured_spanRoles] at hkept
  simp only [firstOf_eq_slot, Option.toList_none, Multiset.coe_nil, add_zero] at hkept
  rw [← Multiset.coe_add, ← hkept] at hall
  refine Multiset.coe_eq_coe.1 (Eq.trans ?_ hall)
  unfold otherSpans invocationSpanOf droppedSpans
  simp only [← Multiset.coe_add]
  cases firstOf received .trigger <;> cases firstOf received .invocation <;>
    cases firstOf received .earlyInvocation <;>
    simp only [Option.isSome_none, Option.isSome_some, Option.none_or, Option.some_or,
      Option.toList_none, Multiset.coe_nil, Bool.false_eq_true, or_self, or_true, true_or, if_true,
      if_false, zero_add, add_zero] <;>
    abel

theorem slot_eq_firstOf (h : HasCaptured config (captureSpans (fun _ => none) received).1 state)
    (role : SpanRole) : state.slot role = (firstOf received role).map (·.prepared config) := by
  rw [h role, firstOf_eq_slot]

theorem invocationOf_eq (h : HasCaptured config (captureSpans (fun _ => none) received).1 state) :
    invocationOf data state =
      (invocationSpanOf received).map (emittedInvocation config data state) := by
  have hinvocation : state.cxInvocationSpan = _ := slot_eq_firstOf h .invocation
  have hearly : state.cxEarlyInvocationSpan = _ := slot_eq_firstOf h .earlyInvocation
  have hgeneric : state.genericInvocationSpan = _ := slot_eq_firstOf h .generic
  have hunlike {role : SpanRole} {x : SpanWithScope} (hx : firstOf received role = some x)
      (hrole : role ≠ .earlyInvocation) : ¬ x.category = .cxEarlyInvocation := by
    intro hcategory
    have hcases := category_of_firstOf hx
    rw [hcategory] at hcases
    exact hrole (Option.some.inj hcases).symm
  unfold invocationOf invocationSpanOf emittedInvocation
  rw [hinvocation, hearly, hgeneric]
  cases hfinal : firstOf received .invocation with
  | some x =>
    simp only [Option.map_some, Option.some_or, if_neg (hunlike hfinal (by decide))]
  | none =>
    cases hx : firstOf received .earlyInvocation with
    | some x =>
      have hcategory : x.category = .cxEarlyInvocation := by
        have hcases := category_of_firstOf hx
        cases hcategory : x.category <;> rw [hcategory] at hcases <;>
          first | rfl | cases hcases
      simp only [Option.map_none, Option.map_some, Option.none_or, Option.some_or, if_pos hcategory]
      rfl
    | none =>
      cases hy : firstOf received .generic with
      | some x =>
        simp only [Option.map_none, Option.map_some, Option.none_or,
          if_neg (hunlike hy (by decide))]
      | none => rfl

/-- The trigger span, and the generic span that is not the invocation span. -/
theorem rewrites_others (h : HasCaptured config (captureSpans (fun _ => none) received).1 state) :
    List.Forall₂ (Rewrites config data) (otherSpans received)
      ((captureSpans (fun _ => none) received).2.map (·.prepared config) ++
        ((triggerOf data state).toList ++ (demotedOf state).toList)) := by
  have htrigger : state.cxTriggerSpan = _ := slot_eq_firstOf h .trigger
  have hearlyTrigger : state.cxEarlyTriggerSpan = _ := slot_eq_firstOf h .earlyTrigger
  have hinvocation : state.cxInvocationSpan = _ := slot_eq_firstOf h .invocation
  have hearly : state.cxEarlyInvocationSpan = _ := slot_eq_firstOf h .earlyInvocation
  have hgeneric : state.genericInvocationSpan = _ := slot_eq_firstOf h .generic
  have hprepared (x : SpanWithScope) : Rewrites config data x (x.prepared config) :=
    ⟨rfl, .inl rfl⟩
  unfold otherSpans
  refine List.rel_append ?_ (List.rel_append ?_ ?_)
  · rw [List.forall₂_map_right_iff, List.forall₂_same]
    exact fun x _ => hprepared x
  · unfold triggerOf
    rw [htrigger, hearlyTrigger]
    cases firstOf received .trigger with
    | some x => exact .cons (hprepared x) .nil
    | none =>
      cases hx : firstOf received .earlyTrigger with
      | none => exact .nil
      | some x =>
        have hcategory : x.category = .cxEarlyTrigger := by
          have hcases := category_of_firstOf hx
          cases hcategory : x.category <;> rw [hcategory] at hcases <;>
            first | rfl | cases hcases
        exact .cons ⟨rfl, .inr ⟨hcategory, rfl⟩⟩ .nil
  · unfold demotedOf
    rw [hinvocation, hearly, hgeneric, Option.isSome_map, Option.isSome_map]
    split
    · cases firstOf received .generic with
      | none => exact .nil
      | some x => exact .cons (hprepared x) .nil
    · exact .nil

end

/-- The data of a `PlatformRuntimeDone`. -/
def LambdaTelemetry.runtimeDoneData? (event : LambdaTelemetry) : Option PlatformRuntimeDoneData :=
  match event.record with
  | .platformRuntimeDone requestId status errorType metrics spans tracing =>
    some { time := event.nanos, requestId, status, errorType, metrics, spans, tracing }
  | _ => none

theorem LambdaTelemetry.runtimeDoneData?_isSome (event : LambdaTelemetry) :
    event.runtimeDoneData?.isSome = event.isRuntimeDone := by
  unfold LambdaTelemetry.runtimeDoneData? LambdaTelemetry.isRuntimeDone
  cases event.record <;> rfl

section

variable [External] {config : TelemetryProcessorConfig}
  {p p' : Processing InvocationProcessingState}

theorem processRecord_runtimeDone {event : LambdaTelemetry} {data : PlatformRuntimeDoneData}
    (h : event.runtimeDoneData? = some data) :
    processRecord config event.nanos event.record p = processRuntimeDone config data p := by
  unfold LambdaTelemetry.runtimeDoneData? at h
  cases hrecord : event.record with
  | platformRuntimeDone =>
    rw [hrecord] at h
    cases h
    rfl
  | _ =>
    rw [hrecord] at h
    cases h

/-- What is emitted, at the end of the runtime, of the spans received: every one once, but for the
warmup spans and the captured early spans whose final span has been captured. -/
def SpansEmitted (config : TelemetryProcessorConfig) (data : PlatformRuntimeDoneData)
    (state : InvocationTracingState) (received emitted : List SpanWithScope) : Prop :=
  ∃ others kept : List SpanWithScope,
    emitted.Perm (others ++ (invocationSpanOf received).toList.map
      (emittedInvocation config data state)) ∧
    List.Forall₂ (Rewrites config data) kept others ∧
    (kept ++ ((invocationSpanOf received).toList ++ droppedSpans received)).Perm received

theorem run_spansEmitted {inputs : List InvocationInput} {done : LambdaTelemetry}
    {data : PlatformRuntimeDoneData} (hfresh : IsFresh config p.state)
    (hmode : config.tracingMode = .otelInstrumentation)
    (hproduce : p.state.tracingState.shouldProduceSpans = true)
    (hinputs : ∀ event ∈ telemetryOf inputs, event.isRuntimeDone = false)
    (hdone : done.runtimeDoneData? = some data)
    (hrun : run (inputStep config) p (inputs ++ [.telemetry done]) = some p') :
    ∃ emitted, p'.functionSpans = p.functionSpans ++ emitted ∧
      SpansEmitted config data p'.state.tracingState (receivedOf inputs) emitted := by
  obtain ⟨q, hq, hlast⟩ := run_snoc.1 hrun
  have hreceived := run_spansReceived hinputs (hasCaptured_of_isFresh hfresh) hq
  have hstep := inputStep_telemetry hlast
  rw [processRecord_runtimeDone hdone] at hstep
  obtain ⟨htracing, hbuffer⟩ := @processRuntimeDone_spans _ config q data
  rw [← hstep] at htracing hbuffer
  rw [if_pos ⟨hreceived.shouldProduceSpans.trans hproduce, hmode⟩] at hbuffer
  have hforwarded := hreceived.functionSpans
  rw [if_pos ⟨hproduce, hmode⟩] at hforwarded
  have hspans : p'.functionSpans = p.functionSpans ++
      ((captureSpans (fun _ => none) (receivedOf inputs)).2.map (·.prepared config) ++
        scopedSpans (emittedSpans data q.state.tracingState)) := by
    rw [← List.append_assoc, ← hforwarded]
    unfold Processing.functionSpans
    rw [hbuffer, scopedSpans_append]
  refine ⟨_, hspans, _, _, ?_, rewrites_others hreceived.hasCaptured, otherSpans_perm (receivedOf inputs)⟩
  rw [htracing, scopedSpans_emittedSpans, invocationOf_eq hreceived.hasCaptured, Option.toList_map,
    List.append_assoc, List.append_assoc]
  refine List.Perm.append_left _ ?_
  rw [List.append_assoc]
  exact List.perm_append_comm.append_left _

/-- In a run that ends with its only `PlatformRuntimeDone`, every received span is emitted once, but
for the warmup spans and the captured early spans whose final span has been captured. The spans keep
their scope. At most one of them is the invocation span. -/
theorem function_spans_conserved {inputs : List InvocationInput} {done : LambdaTelemetry}
    {data : PlatformRuntimeDoneData} (hfresh : IsFresh config p.state)
    (hmode : config.tracingMode = .otelInstrumentation)
    (hproduce : p.state.tracingState.shouldProduceSpans = true)
    (hinputs : ∀ event ∈ telemetryOf inputs, event.isRuntimeDone = false)
    (hdone : done.runtimeDoneData? = some data)
    (hrun : run (inputStep config) p (inputs ++ [.telemetry done]) = some p') :
    ∃ emitted others kept : List SpanWithScope,
      p'.functionSpans = p.functionSpans ++ emitted ∧
      emitted.Perm (others ++ (invocationSpanOf (receivedOf inputs)).toList.map
        (emittedInvocation config data p'.state.tracingState)) ∧
      List.Forall₂ (Rewrites config data) kept others ∧
      (kept ++ ((invocationSpanOf (receivedOf inputs)).toList ++
        droppedSpans (receivedOf inputs))).Perm (receivedOf inputs) := by
  obtain ⟨emitted, hspans, others, kept, hemitted⟩ :=
    run_spansEmitted hfresh hmode hproduce hinputs hdone hrun
  exact ⟨emitted, others, kept, hspans, hemitted⟩

end

/-- A batch with the language of the function, and the invocation span. -/
def sampleBatchWithLanguage : List ResourceSpans :=
  [{ resource := some { attributes := [stringAttribute languageAttribute "nodejs"] }
     scopeSpans :=
      [{ scope := none
         spans :=
          [{ traceId := [1], spanId := [2], parentSpanId := [], name := "f", kind := spanKindServer
             startTimeUnixNano := 0, endTimeUnixNano := 0, status := none
             attributes := [stringAttribute spanRoleAttribute "invocation",
               stringAttribute "key" "value"] }] }] }]

/-- The configuration that excludes the language attribute. -/
def languageExcludingConfig : TelemetryProcessorConfig :=
  { sampleProcessorConfig .otelInstrumentation with
    excludedSpanAttributes := .regex fun key => key = languageAttribute }

/-- The run that emits the invocation span of the batch. -/
def languageInputs : List InvocationInput :=
  [.functionSpans sampleBatchWithLanguage, .telemetry (sampleRuntimeDone 7 "r")]

theorem function_spans_conserved_language :
    ∃ (p' : Processing InvocationProcessingState) (data : PlatformRuntimeDoneData)
      (emitted others kept : List SpanWithScope), p'.functionSpans = [] ++ emitted ∧
      emitted.Perm (others ++
        (invocationSpanOf (receivedOf [.functionSpans sampleBatchWithLanguage])).toList.map
          (emittedInvocation languageExcludingConfig data p'.state.tracingState)) ∧
      List.Forall₂ (Rewrites languageExcludingConfig data) kept others ∧
      (kept ++ ((invocationSpanOf (receivedOf [.functionSpans sampleBatchWithLanguage])).toList ++
        droppedSpans (receivedOf [.functionSpans sampleBatchWithLanguage]))).Perm
        (receivedOf [.functionSpans sampleBatchWithLanguage]) :=
  ⟨_, _, @function_spans_conserved sampleExternal languageExcludingConfig
    (freshProcessing .otelInstrumentation) _ [.functionSpans sampleBatchWithLanguage]
    (sampleRuntimeDone 7 "r") _ (isFresh_freshProcessing .otelInstrumentation) rfl rfl
    (fun event hevent => by cases hevent) rfl rfl⟩

/-! ## What leaves -/

/-- The span leaves with the attributes of the received one that are kept, in order, and no other. -/
def KeepsAttributes (config : TelemetryProcessorConfig) (received emitted : SpanWithScope) : Prop :=
  emitted.scope = received.scope ∧
    emitted.span.attributes = received.span.attributes.filter (keepsAttribute config)

/-- A conclusion changes no attribute. -/
theorem Rewrites.keepsAttributes {config : TelemetryProcessorConfig} {data : PlatformRuntimeDoneData}
    {received emitted : SpanWithScope} (h : Rewrites config data received emitted) :
    KeepsAttributes config received emitted := by
  obtain ⟨hscope, rfl | ⟨-, rfl⟩⟩ := h
  · exact ⟨hscope, prepared_attributes config received⟩
  · exact ⟨hscope, prepared_attributes config received⟩

/-- The language is added to the invocation span, after the attributes that are kept. -/
theorem emittedInvocation_attributes {config : TelemetryProcessorConfig}
    {data : PlatformRuntimeDoneData} {state : InvocationTracingState} (received : SpanWithScope) :
    (emittedInvocation config data state received).scope = received.scope ∧
      (emittedInvocation config data state received).span.attributes =
        received.span.attributes.filter (keepsAttribute config) ++
          (state.language.map languageKeyValue).toList := by
  rw [← prepared_attributes]
  unfold emittedInvocation
  dsimp only
  split
  · exact ⟨rfl, addLanguage_attributes _⟩
  · exact ⟨rfl, addLanguage_attributes _⟩

/-- What is on the right has been made of something on the left. -/
theorem exists_of_mem_right {A B : Type} {R : A → B → Prop} {xs : List A} {ys : List B}
    (h : List.Forall₂ R xs ys) {y : B} (hy : y ∈ ys) : ∃ x ∈ xs, R x y := by
  induction h with
  | nil => cases hy
  | cons hxy _ ih =>
    rcases List.mem_cons.1 hy with rfl | hy
    · exact ⟨_, List.mem_cons_self, hxy⟩
    · obtain ⟨x, hx, hxy⟩ := ih hy
      exact ⟨x, List.mem_cons_of_mem _ hx, hxy⟩

section

variable [External] {config : TelemetryProcessorConfig}
  {p p' : Processing InvocationProcessingState}

/-- The span is the invocation span that an end of the runtime emits of the spans received before: it
has the attributes that are kept and, after them, the language if it has been detected. -/
def IsEmittedInvocation (config : TelemetryProcessorConfig) (p : Processing InvocationProcessingState)
    (inputs : List InvocationInput) (x : SpanWithScope) : Prop :=
  ∃ past event rest data q y, inputs = past ++ .telemetry event :: rest ∧
    event.runtimeDoneData? = some data ∧ run (inputStep config) p past = some q ∧
    invocationSpanOf (receivedOf past) = some y ∧
    x = emittedInvocation config data q.state.tracingState y ∧ x.scope = y.scope ∧
    x.span.attributes = y.span.attributes.filter (keepsAttribute config) ++
      (q.state.tracingState.language.map languageKeyValue).toList

theorem IsEmittedInvocation.append {inputs : List InvocationInput} {x : SpanWithScope}
    (h : IsEmittedInvocation config p inputs x) (more : List InvocationInput) :
    IsEmittedInvocation config p (inputs ++ more) x := by
  obtain ⟨past, event, rest, data, q, y, rfl, h⟩ := h
  exact ⟨past, event, rest ++ more, data, q, y, List.append_assoc _ _ _, h⟩

/-- The emitted spans have the attributes of received ones that are kept. Only the invocation spans
have one more, and there are no more of these than ends of the runtime. -/
def AttributesKept (config : TelemetryProcessorConfig) (p : Processing InvocationProcessingState)
    (inputs : List InvocationInput) (emitted : List SpanWithScope) : Prop :=
  ∃ others invocations : List SpanWithScope, emitted.Perm (others ++ invocations) ∧
    (∀ x ∈ others, ∃ y ∈ receivedOf inputs, KeepsAttributes config y x) ∧
    invocations.length ≤ (telemetryOf inputs).countP LambdaTelemetry.isRuntimeDone ∧
    ∀ x ∈ invocations, IsEmittedInvocation config p inputs x

namespace AttributesKept

variable {past : List InvocationInput} {emitted : List SpanWithScope}

/-- The spans that one more input emits: regular ones, and with the end of the runtime the invocation
span. -/
theorem snoc (h : AttributesKept config p past emitted) (input : InvocationInput)
    (others invocation : List SpanWithScope) {more : List SpanWithScope}
    (hmore : more.Perm (others ++ invocation))
    (hothers : ∀ x ∈ others, ∃ y ∈ receivedOf (past ++ [input]), KeepsAttributes config y x)
    (hlength : invocation.length ≤ (telemetryOf [input]).countP LambdaTelemetry.isRuntimeDone)
    (hinvocation : ∀ x ∈ invocation, IsEmittedInvocation config p (past ++ [input]) x) :
    AttributesKept config p (past ++ [input]) (emitted ++ more) := by
  obtain ⟨others', invocations, hperm, hkeeps, hcount, hemitted⟩ := h
  refine ⟨others' ++ others, invocations ++ invocation, ?_, ?_, ?_, ?_⟩
  · rw [List.append_assoc]
    refine (hperm.append hmore).trans ?_
    rw [List.append_assoc]
    refine List.Perm.append_left _ ?_
    rw [← List.append_assoc, ← List.append_assoc]
    exact List.perm_append_comm.append_right _
  · intro x hx
    rcases List.mem_append.1 hx with hx | hx
    · obtain ⟨y, hy, hxy⟩ := hkeeps x hx
      refine ⟨y, ?_, hxy⟩
      rw [receivedOf_append]
      exact List.mem_append_left _ hy
    · exact hothers x hx
  · rw [telemetryOf_append, List.countP_append, List.length_append]
    exact Nat.add_le_add hcount hlength
  · intro x hx
    rcases List.mem_append.1 hx with hx | hx
    · exact (hemitted x hx).append _
    · exact hinvocation x hx

/-- An input that emits nothing. -/
theorem still (h : AttributesKept config p past emitted) (input : InvocationInput) :
    AttributesKept config p (past ++ [input]) emitted := by
  have snoc := h.snoc input [] [] (List.Perm.refl []) (fun x hx => absurd hx List.not_mem_nil)
    (Nat.zero_le _) (fun x hx => absurd hx List.not_mem_nil)
  rwa [List.append_nil] at snoc

end AttributesKept

/-- What has become of the spans of a run. -/
structure SpansProcessed (config : TelemetryProcessorConfig) (inputs : List InvocationInput)
    (p p' : Processing InvocationProcessingState) : Prop where
  reached : run (inputStep config) p inputs = some p'
  hasCaptured :
    HasCaptured config (captureSpans (fun _ => none) (receivedOf inputs)).1 p'.state.tracingState
  emitted : ∃ emitted, p'.functionSpans = p.functionSpans ++ emitted ∧
    AttributesKept config p inputs emitted

namespace SpansProcessed

variable {q : Processing InvocationProcessingState} {past : List InvocationInput}

omit [External] in
theorem receivedOf_telemetry (past : List InvocationInput) (event : LambdaTelemetry) :
    receivedOf (past ++ [.telemetry event]) = receivedOf past := by
  rw [receivedOf_append]
  exact List.append_nil _

/-- The end of the runtime emits captured spans. -/
theorem runtimeDone (h : SpansProcessed config past p q) {event : LambdaTelemetry}
    {data : PlatformRuntimeDoneData} (hdata : event.runtimeDoneData? = some data)
    (hrun : run (inputStep config) p (past ++ [.telemetry event]) =
      some (processRuntimeDone config data q)) :
    SpansProcessed config (past ++ [.telemetry event]) p (processRuntimeDone config data q) := by
  let state := q.state.tracingState
  obtain ⟨htracing, hbuffer⟩ := @processRuntimeDone_spans _ config q data
  obtain ⟨emitted, hemitted, hkept⟩ := h.emitted
  have captured : HasCaptured config
      (captureSpans (fun _ => none) (receivedOf (past ++ [.telemetry event]))).1
      (processRuntimeDone config data q).state.tracingState := by
    rw [receivedOf_telemetry, htracing]
    exact h.hasCaptured
  by_cases hmode : state.shouldProduceSpans = true ∧ config.tracingMode = .otelInstrumentation
  · rw [if_pos hmode] at hbuffer
    refine ⟨hrun, captured, emitted ++ scopedSpans (emittedSpans data state), ?_,
      hkept.snoc (.telemetry event) ((triggerOf data state).toList ++ (demotedOf state).toList)
        (invocationOf data state).toList ?_ ?_ ?_ ?_⟩
    · unfold Processing.functionSpans at hemitted ⊢
      rw [hbuffer, scopedSpans_append, hemitted, List.append_assoc]
    · rw [scopedSpans_emittedSpans, List.append_assoc, List.append_assoc]
      exact List.perm_append_comm.append_left _
    · intro x hx
      obtain ⟨y, hy, hxy⟩ := exists_of_mem_right
        (@rewrites_others config data _ _ h.hasCaptured) (List.mem_append_right _ hx)
      have hmem : y ∈ otherSpans (receivedOf past) ++
          ((invocationSpanOf (receivedOf past)).toList ++ droppedSpans (receivedOf past)) :=
        List.mem_append_left _ hy
      rw [receivedOf_telemetry]
      exact ⟨y, (otherSpans_perm _).subset hmem, hxy.keepsAttributes⟩
    · have hdone : event.isRuntimeDone = true := by
        rw [← event.runtimeDoneData?_isSome, hdata]
        rfl
      have hone : telemetryOf [.telemetry event] = [event] := rfl
      rw [hone, List.countP_singleton, if_pos hdone]
      exact Option.length_toList_le
    · intro x hx
      rw [invocationOf_eq h.hasCaptured] at hx
      obtain ⟨y, hy, rfl⟩ := Option.map_eq_some_iff.1 (Option.mem_toList.1 hx)
      exact ⟨past, event, [], data, q, y, rfl, hdata, h.reached, hy, rfl,
        emittedInvocation_attributes y⟩
  · rw [if_neg hmode, List.append_nil] at hbuffer
    refine ⟨hrun, captured, emitted, ?_, hkept.still _⟩
    unfold Processing.functionSpans at hemitted ⊢
    rw [hbuffer, hemitted]

/-- An event emits nothing, or it is the end of the runtime. -/
theorem telemetry (h : SpansProcessed config past p q) {event : LambdaTelemetry}
    (hq : inputStep config q (.telemetry event) = some p') :
    SpansProcessed config (past ++ [.telemetry event]) p p' := by
  have hrun := run_snoc.2 ⟨q, h.reached, hq⟩
  rw [inputStep_telemetry hq] at hrun ⊢
  cases hdata : event.runtimeDoneData? with
  | some data =>
    rw [processRecord_runtimeDone hdata] at hrun ⊢
    exact h.runtimeDone hdata hrun
  | none =>
    have hdone : event.isRuntimeDone = false := by
      rw [← event.runtimeDoneData?_isSome, hdata]
      rfl
    have hkeeps := @processRecord_keepsSpans _ config q event hdone
    obtain ⟨emitted, hemitted, hkept⟩ := h.emitted
    refine ⟨hrun, ?_, emitted, ?_, hkept.still _⟩
    · rw [receivedOf_telemetry, hkeeps.tracingState]
      exact h.hasCaptured
    · unfold Processing.functionSpans at hemitted ⊢
      rw [hkeeps.functionSpansBuffer]
      exact hemitted

/-- Spans of the function are forwarded, or captured. -/
theorem functionSpans (h : SpansProcessed config past p q) {spans : List ResourceSpans}
    (hq : inputStep config q (.functionSpans spans) = some p') :
    SpansProcessed config (past ++ [.functionSpans spans]) p p' := by
  have hone : receivedOf [.functionSpans spans] = receivedSpans spans := List.flatMap_singleton ..
  have hrun := run_snoc.2 ⟨q, h.reached, hq⟩
  have hreceived := @processFunctionSpans_received _ config q _ h.hasCaptured spans
  obtain ⟨emitted, hemitted, hkept⟩ := h.emitted
  have hspans := hreceived.functionSpans
  rw [hemitted, List.append_assoc] at hspans
  rw [inputStep_functionSpans hq] at hrun ⊢
  refine ⟨hrun, ?_, _, hspans, hkept.snoc (.functionSpans spans) _ [] (.of_eq (List.append_nil _).symm) ?_
    (Nat.zero_le _) (fun x hx => absurd hx List.not_mem_nil)⟩
  · have hcaptured := hreceived.hasCaptured
    rw [receivedOf_append, hone]
    unfold captureSpans at hcaptured ⊢
    rw [Capture.capture_append]
    exact hcaptured
  · intro x hx
    split at hx
    · obtain ⟨y, hy, rfl⟩ := List.mem_map.1 hx
      refine ⟨y, ?_, rfl, prepared_attributes config y⟩
      rw [receivedOf_append, hone]
      exact List.mem_append_right _ ((Capture.forwarded_sublist _ _).subset hy)
    · cases hx

end SpansProcessed

theorem run_spansProcessed {inputs : List InvocationInput} (hfresh : IsFresh config p.state)
    (hrun : run (inputStep config) p inputs = some p') : SpansProcessed config inputs p p' := by
  refine run_actions (I := fun past q => SpansProcessed config past p q) ?_ ?_ hrun
  · exact ⟨rfl, hasCaptured_of_isFresh hfresh, [], (List.append_nil _).symm, [], [],
      List.Perm.refl _, fun x hx => absurd hx List.not_mem_nil, Nat.zero_le _,
      fun x hx => absurd hx List.not_mem_nil⟩
  · intro past q input q' h hq
    cases input with
    | telemetry event => exact h.telemetry hq
    | functionSpans spans => exact h.functionSpans hq

/-- Every function span in the output buffers is a received one without the internal and the excluded
attributes, the others being kept in order. Only the invocation span, which each end of the runtime
emits once at most, has one attribute more: the language. Which span is captured in which role does not
depend on what is excluded. -/
theorem function_span_attributes_kept {inputs : List InvocationInput}
    (hfresh : IsFresh config p.state) (hrun : run (inputStep config) p inputs = some p') :
    (∃ emitted, p'.functionSpans = p.functionSpans ++ emitted ∧
      AttributesKept config p inputs emitted) ∧
    ∃ captured : SpanRole → Option SpanWithScope,
      HasCaptured config captured p'.state.tracingState ∧
      ∀ (exclusion : AttributeExclusionMode) (q : Processing InvocationProcessingState),
        run (inputStep { config with excludedSpanAttributes := exclusion }) p inputs = some q →
        HasCaptured { config with excludedSpanAttributes := exclusion } captured
          q.state.tracingState := by
  have h := run_spansProcessed hfresh hrun
  refine ⟨h.emitted, _, h.hasCaptured, fun exclusion q hother => ?_⟩
  have hfresh' : IsFresh { config with excludedSpanAttributes := exclusion } p.state := hfresh
  exact (run_spansProcessed hfresh' hother).hasCaptured

end

/-- The invocation span is emitted, and it is the only span. -/
theorem function_span_attributes_kept_language :
    ∃ p' : Processing InvocationProcessingState, p'.functionSpans.length = 1 ∧
      ∃ emitted, p'.functionSpans = [] ++ emitted ∧
        @AttributesKept sampleExternal languageExcludingConfig
          (freshProcessing .otelInstrumentation) languageInputs emitted := by
  refine ⟨_, rfl, (@function_span_attributes_kept sampleExternal languageExcludingConfig
    (freshProcessing .otelInstrumentation) _ languageInputs
    (isFresh_freshProcessing .otelInstrumentation) rfl).1⟩

/-- Some attribute of the function spans is excluded. -/
def hasExcludedAttribute (config : TelemetryProcessorConfig) (spans : List SpanWithScope) : Bool :=
  spans.any fun x => x.span.attributes.any fun attr => config.excludesKey attr.key

/-- The invocation span gets the language attribute, whatever is excluded. -/
theorem excluded_language_leaves :
    ∃ p', run (@inputStep sampleExternal languageExcludingConfig)
        (freshProcessing .otelInstrumentation) languageInputs = some p' ∧
      ¬ ∀ x ∈ p'.functionSpans, ∀ attr ∈ x.span.attributes,
        languageExcludingConfig.excludesKey attr.key = false := by
  have hexcluded : ((run (@inputStep sampleExternal languageExcludingConfig)
      (freshProcessing .otelInstrumentation) languageInputs).any fun p' =>
        hasExcludedAttribute languageExcludingConfig p'.functionSpans) = true := by decide +kernel
  obtain ⟨p', hrun, hany⟩ := (Option.any_eq_true _ _).1 hexcluded
  refine ⟨p', hrun, fun h => ?_⟩
  obtain ⟨x, hx, hattr⟩ := List.any_eq_true.1 hany
  obtain ⟨attr, hmem, hkey⟩ := List.any_eq_true.1 hattr
  rw [h x hx attr hmem] at hkey
  cases hkey

end TelemetryExporter
