import Mathlib.Data.List.Nodup
import TelemetryExporter.Verify.History

/-!
# Which invocation is the current one

The trace of processor calls says which invoke events have left the queue, which invocation became
the current one and when it was concluded. `Enrolled` relates the trace to the queue and to the
current invocation's state. It holds in every run, with or without errors.
-/

namespace TelemetryExporter

/-- The invocation whose invoke event has left the queue. -/
def ProcessorCall.takes : ProcessorCall → Option Nat
  | .created invocation => some invocation
  | .rejected invocation => some invocation
  | _ => none

/-- The invocations whose invoke events have left the queue, in order. -/
def takenInvocations (trace : List ProcessorCall) : List Nat := trace.filterMap ProcessorCall.takes

/-- A call that processes telemetry or spans, with the state of the invocation if with any. -/
def ProcessorCall.IsFor (invocation : Nat) : ProcessorCall → Prop
  | .telemetry owner _ => owner = invocation
  | .functionSpans owner _ => owner = invocation
  | .degraded _ => True
  | .failed _ => True
  | _ => False

/-- An event of a kind has been processed with the state of the invocation. -/
def Processed (kind : LambdaTelemetry → Bool) (trace : List ProcessorCall) (invocation : Nat) :
    Prop :=
  ∃ event, .telemetry invocation event ∈ trace ∧ kind event = true

/-- The invocation has been concluded. -/
def Concluded (trace : List ProcessorCall) (invocation : Nat) : Prop :=
  ∃ logs, .concluded invocation logs ∈ trace

@[simp] theorem takenInvocations_append (a b : List ProcessorCall) :
    takenInvocations (a ++ b) = takenInvocations a ++ takenInvocations b :=
  List.filterMap_append

theorem takenInvocations_of_isFor {calls : List ProcessorCall} {invocation : Nat}
    (h : ∀ call ∈ calls, call.IsFor invocation) : takenInvocations calls = [] := by
  apply List.filterMap_eq_nil_iff.2
  intro call hcall
  have := h call hcall
  cases call <;> first | rfl | exact this.elim

theorem Processed.mono {kind : LambdaTelemetry → Bool} {trace calls : List ProcessorCall}
    {invocation : Nat} (h : Processed kind trace invocation) :
    Processed kind (trace ++ calls) invocation := by
  obtain ⟨event, hmem, hkind⟩ := h
  exact ⟨event, List.mem_append_left _ hmem, hkind⟩

/-- Calls with the state of one invocation. -/
theorem processed_append {kind : LambdaTelemetry → Bool} {trace calls : List ProcessorCall}
    {invocation : Nat} {isKind : ProcessorCall → Bool}
    (htelemetry : ∀ owner event, isKind (.telemetry owner event) = kind event)
    (hother : ∀ call, isKind call = true → ∃ owner event, call = .telemetry owner event)
    (hcalls : ∀ call ∈ calls, call.IsFor invocation) :
    Processed kind (trace ++ calls) invocation ↔
      Processed kind trace invocation ∨ calls.any isKind = true := by
  constructor
  · rintro ⟨event, hmem, hkind⟩
    rcases List.mem_append.1 hmem with hmem | hmem
    · exact .inl ⟨event, hmem, hkind⟩
    · exact .inr (List.any_eq_true.2 ⟨_, hmem, (htelemetry _ _).trans hkind⟩)
  · rintro (h | h)
    · exact h.mono
    · obtain ⟨call, hmem, hkind⟩ := List.any_eq_true.1 h
      obtain ⟨owner, event, rfl⟩ := hother call hkind
      rw [show owner = invocation from hcalls _ hmem] at hmem
      exact ⟨event, List.mem_append_right _ hmem, (htelemetry _ _).symm.trans hkind⟩

theorem report_append {trace calls : List ProcessorCall} {invocation : Nat}
    (hcalls : ∀ call ∈ calls, call.IsFor invocation) :
    Processed LambdaTelemetry.isReport (trace ++ calls) invocation ↔
      Processed LambdaTelemetry.isReport trace invocation ∨
        calls.any ProcessorCall.isReport = true :=
  processed_append (fun _ _ => rfl) (fun call h => by cases call <;> first | exact ⟨_, _, rfl⟩ | cases h)
    hcalls

theorem runtimeDone_append {trace calls : List ProcessorCall} {invocation : Nat}
    (hcalls : ∀ call ∈ calls, call.IsFor invocation) :
    Processed LambdaTelemetry.isRuntimeDone (trace ++ calls) invocation ↔
      Processed LambdaTelemetry.isRuntimeDone trace invocation ∨
        calls.any ProcessorCall.isRuntimeDone = true :=
  processed_append (fun _ _ => rfl) (fun call h => by cases call <;> first | exact ⟨_, _, rfl⟩ | cases h)
    hcalls

theorem callsFor_telemetry_isFor (invocation : Nat) (events : List LambdaTelemetry) :
    ∀ call ∈ callsFor (.telemetry invocation) events, call.IsFor invocation := by
  intro call hcall
  rcases mem_callsFor hcall with ⟨event, -, rfl | rfl⟩
  · exact rfl
  · trivial

theorem callsFor_degraded_isFor (invocation : Nat) (events : List LambdaTelemetry) :
    ∀ call ∈ callsFor .degraded events, call.IsFor invocation := by
  intro call hcall
  rcases mem_callsFor hcall with ⟨event, -, rfl | rfl⟩
  · trivial
  · trivial

/-! ## What handling an event does to the current invocation -/

/-- The fields that handling an event leaves alone, and the calls it makes. -/
structure Progressed (state : InvocationProcessingState) (calls : List ProcessorCall)
    (s s' : TelemetryServiceState) : Prop where
  queue : s'.invokeEventQueue = s.invokeEventQueue
  enqueued : s'.enqueued = s.enqueued
  functionSpans : s'.functionSpansBuffer = s.functionSpansBuffer
  init : s.initHandled = true → s'.initHandled = true
  calls : ∀ call ∈ calls, call.IsFor state.serial

/-- The current invocation goes on, or it is concluded. -/
inductive Proceeds (state : InvocationProcessingState) (s s' : TelemetryServiceState) : Prop where
  | on (state' : InvocationProcessingState) (calls : List ProcessorCall)
      (progressed : Progressed state calls s s') (htrace : s'.trace = s.trace ++ calls)
      (hstate : s'.invocationState = some state') (same : SameInvocation state state')
      (hreport : state'.reportData.isSome =
        (state.reportData.isSome || calls.any ProcessorCall.isReport))
      (hdone : state'.runtimeDoneData.isSome =
        (state.runtimeDoneData.isSome || calls.any ProcessorCall.isRuntimeDone))
  | off (logs : List RawFunctionLog) (event : LambdaTelemetry)
      (progressed : Progressed state [.telemetry state.serial event] s s')
      (htrace : s'.trace = s.trace ++
        [.telemetry state.serial event, .concluded state.serial logs])
      (hstate : s'.invocationState = none) (hinit : s'.initHandled = true)
      (hreport : state.reportData.isSome = true ∨ event.isReport = true)

section

variable [External] {config : TelemetryServiceConfig} {s : TelemetryServiceState}
  {state : InvocationProcessingState} {event : LambdaTelemetry}

omit [External] in
/-- Calls without a state of an invocation leave that of the current one alone. -/
theorem Proceeds.of_degraded {s' : TelemetryServiceState} {calls : List ProcessorCall}
    (progressed : Progressed state calls s s') (htrace : s'.trace = s.trace ++ calls)
    (hstate : s'.invocationState = some state)
    (hcalls : ∀ call ∈ calls, call.isReport = false ∧ call.isRuntimeDone = false) :
    Proceeds state s s' := by
  refine .on state calls progressed htrace hstate (.refl state) ?_ ?_
  · rw [List.any_eq_false.2 fun call hcall => by simp [(hcalls call hcall).1], Bool.or_false]
  · rw [List.any_eq_false.2 fun call hcall => by simp [(hcalls call hcall).2], Bool.or_false]

omit [External] in
theorem callsFor_degraded_not {events : List LambdaTelemetry} :
    ∀ call ∈ callsFor .degraded events, call.isReport = false ∧ call.isRuntimeDone = false := by
  intro call hcall
  rcases mem_callsFor hcall with ⟨event, -, rfl | rfl⟩
  · exact ⟨rfl, rfl⟩
  · exact ⟨rfl, rfl⟩

theorem Handled.proceeds {queue : List LambdaTelemetry} {o : Outcome Bool}
    (h : Handled config state event { s with telemetryEventQueue := queue } o)
    (hstate : s.invocationState = some state) : Proceeds state s o.1 := by
  cases h with
  | buffered => exact .of_degraded ⟨rfl, rfl, rfl, id, by simp⟩ (List.append_nil _).symm hstate (by simp)
  | restarted m out rng hinit hevent htimes =>
    have hcalls : callsFor .degraded s.halfProcessedEventBuffer = _ :=
      callsFor_of_timestamps htimes
    refine .of_degraded ⟨rfl, rfl, rfl, id, ?_⟩ rfl hstate ?_
    · rw [← hcalls]
      exact callsFor_degraded_isFor _ _
    · rw [← hcalls]
      exact callsFor_degraded_not
  | restartFailed =>
    exact .of_degraded ⟨rfl, rfl, rfl, id, callsFor_degraded_isFor _ _⟩ rfl hstate
      callsFor_degraded_not
  | replayed state' m out rng hinit hstarted hevent htimes carries =>
    refine .on state' _ ⟨rfl, rfl, rfl, fun _ => rfl, ?_⟩ rfl rfl carries.same carries.reportData
      carries.runtimeDoneData
    rw [← callsFor_of_timestamps htimes]
    exact callsFor_telemetry_isFor _ _
  | replayFailed state' m out rng e hinit hstarted hevent hfailed carries =>
    exact .on state' _ ⟨rfl, rfl, rfl, fun _ => rfl, callsFor_telemetry_isFor _ _⟩ rfl rfl carries.same
      carries.reportData carries.runtimeDoneData
  | processed state' m out rng hinit htime carries hreport =>
    refine .on state' _ ⟨rfl, rfl, rfl, id, ?_⟩ rfl rfl carries.same carries.reportData
      carries.runtimeDoneData
    simp [ProcessorCall.IsFor]
  | concluded state' m out rng hinit htime carries hreport hlogs =>
    refine .off _ event ⟨rfl, rfl, rfl, id, by simp [ProcessorCall.IsFor]⟩ rfl rfl hinit ?_
    have := carries.reportData
    rw [hreport] at this
    simpa [ProcessorCall.isReport] using this.symm
  | failed e =>
    exact .of_degraded ⟨rfl, rfl, rfl, id, by simp [ProcessorCall.IsFor]⟩ rfl hstate
      (by simp [ProcessorCall.isReport, ProcessorCall.isRuntimeDone])

end

/-! ## The invariant -/

/-- How the trace is related to the invoke events queued so far and to the current invocation. -/
structure Enrolled (requests : List InvokeEvent) (s : TelemetryServiceState) : Prop where
  enqueued : s.enqueued = requests.length
  taken : takenInvocations s.trace ++ s.invokeEventQueue.map (·.serial) =
    List.range requests.length
  requestIds : ∀ e ∈ s.invokeEventQueue, (requests.map (·.requestId))[e.serial]? = some e.requestId
  current : ∀ state, s.invocationState = some state →
    (requests.map (·.requestId))[state.serial]? = some state.invocationContext.requestId ∧
      (takenInvocations s.trace).getLast? = some state.serial
  created : ∀ k, .created k ∈ s.trace →
    Concluded s.trace k ∨ ∃ state, s.invocationState = some state ∧ state.serial = k
  concluded : ∀ k, Concluded s.trace k → k ∈ takenInvocations s.trace ∧ s.initHandled = true ∧
    ∀ state, s.invocationState = some state → state.serial ≠ k
  telemetry : ∀ k event, .telemetry k event ∈ s.trace → k ∈ takenInvocations s.trace
  report : ∀ state, s.invocationState = some state →
    (state.reportData.isSome = true ↔ Processed LambdaTelemetry.isReport s.trace state.serial)
  runtimeDone : ∀ state, s.invocationState = some state →
    (state.runtimeDoneData.isSome = true ↔
      Processed LambdaTelemetry.isRuntimeDone s.trace state.serial)

namespace Enrolled

variable {requests : List InvokeEvent} {s s' : TelemetryServiceState}

/-- The fields that the invariant mentions. -/
theorem congr (h : Enrolled requests s) (henqueued : s'.enqueued = s.enqueued)
    (htrace : s'.trace = s.trace) (hqueue : s'.invokeEventQueue = s.invokeEventQueue)
    (hstate : s'.invocationState = s.invocationState) (hinit : s'.initHandled = s.initHandled) :
    Enrolled requests s' := by
  obtain ⟨h₁, h₂, h₃, h₄, h₅, h₆, h₇, h₈, h₉⟩ := h
  refine ⟨?_, ?_, ?_, ?_, ?_, ?_, ?_, ?_, ?_⟩ <;>
    simpa only [henqueued, htrace, hqueue, hstate, hinit]

/-- The invoke events leave the queue in the order of their arrival. -/
theorem taken_eq_range (h : Enrolled requests s) :
    takenInvocations s.trace = List.range (takenInvocations s.trace).length := by
  have hpre : takenInvocations s.trace <+: List.range requests.length := ⟨_, h.taken⟩
  have htake := List.prefix_iff_eq_take.1 hpre
  rwa [List.take_range, Nat.min_eq_left (by simpa using hpre.length_le)] at htake

/-- The current invocation is the last one that has left the queue. -/
theorem serial_add_one (h : Enrolled requests s) {state : InvocationProcessingState}
    (hstate : s.invocationState = some state) :
    state.serial + 1 = (takenInvocations s.trace).length := by
  have hlast := (h.current state hstate).2
  rw [h.taken_eq_range] at hlast
  cases hlength : (takenInvocations s.trace).length with
  | zero => simp [hlength] at hlast
  | succ n =>
    rw [hlength, List.range_succ, List.getLast?_concat, Option.some.injEq] at hlast
    rw [hlast]

/-- The request of the current invocation. -/
theorem requestId_eq (h : Enrolled requests s) {state : InvocationProcessingState}
    {ids : List String} {id : String} (hstate : s.invocationState = some state)
    (hids : requests.map (·.requestId) <+: ids) (hid : ids[state.serial]? = some id) :
    state.invocationContext.requestId = id := by
  obtain ⟨more, rfl⟩ := hids
  have hcurrent := (h.current state hstate).1
  obtain ⟨hlt, -⟩ := List.getElem?_eq_some_iff.1 hcurrent
  rw [List.getElem?_append_left hlt, hcurrent, Option.some.injEq] at hid
  exact hid

/-- An invoke event in the queue has not been taken yet. -/
theorem not_mem_taken (h : Enrolled requests s) {e : InvokeEventDataWithSpans}
    (he : e ∈ s.invokeEventQueue) : e.serial ∉ takenInvocations s.trace := by
  have nodup : (takenInvocations s.trace ++ s.invokeEventQueue.map (·.serial)).Nodup := by
    rw [h.taken]
    exact List.nodup_range
  intro hmem
  exact (List.nodup_append.1 nodup).2.2 _ hmem _ (List.mem_map_of_mem he) rfl

/-- Calls of the current invocation's events, when it goes on. -/
theorem on {state state' : InvocationProcessingState} {calls : List ProcessorCall}
    (h : Enrolled requests s) (hs : s.invocationState = some state)
    (progressed : Progressed state calls s s') (htrace : s'.trace = s.trace ++ calls)
    (hstate : s'.invocationState = some state') (same : SameInvocation state state')
    (hreport : state'.reportData.isSome =
      (state.reportData.isSome || calls.any ProcessorCall.isReport))
    (hdone : state'.runtimeDoneData.isSome =
      (state.runtimeDoneData.isSome || calls.any ProcessorCall.isRuntimeDone)) :
    Enrolled requests s' := by
  have htaken : takenInvocations s'.trace = takenInvocations s.trace := by
    rw [htrace, takenInvocations_append, takenInvocations_of_isFor progressed.calls,
      List.append_nil]
  have hconcluded : ∀ k, Concluded s'.trace k ↔ Concluded s.trace k := by
    intro k
    refine ⟨fun ⟨logs, hlogs⟩ => ?_, fun ⟨logs, hlogs⟩ => ⟨logs, ?_⟩⟩
    · rw [htrace] at hlogs
      rcases List.mem_append.1 hlogs with hlogs | hlogs
      · exact ⟨logs, hlogs⟩
      · exact (progressed.calls _ hlogs).elim
    · rw [htrace]
      exact List.mem_append_left _ hlogs
  obtain ⟨hcurrent, hlast⟩ := h.current state hs
  refine ⟨?_, ?_, ?_, ?_, ?_, ?_, ?_, ?_, ?_⟩
  · rw [progressed.enqueued, h.enqueued]
  · rw [htaken, progressed.queue, h.taken]
  · rw [progressed.queue]
    exact h.requestIds
  · intro st hst
    rw [hstate, Option.some.injEq] at hst
    subst hst
    rw [htaken, same.serial, same.invocationContext]
    exact ⟨hcurrent, hlast⟩
  · intro k hk
    rw [htrace] at hk
    rcases List.mem_append.1 hk with hk | hk
    · rw [hconcluded]
      refine (h.created k hk).imp id ?_
      rintro ⟨st, hst, rfl⟩
      rw [hs, Option.some.injEq] at hst
      subst hst
      exact ⟨state', hstate, same.serial⟩
    · exact (progressed.calls _ hk).elim
  · intro k hk
    rw [hconcluded] at hk
    obtain ⟨hmem, hinit, hne⟩ := h.concluded k hk
    refine ⟨htaken ▸ hmem, progressed.init hinit, fun st hst => ?_⟩
    rw [hstate, Option.some.injEq] at hst
    subst hst
    rw [same.serial]
    exact hne state hs
  · intro k event hk
    rw [htrace] at hk
    rw [htaken]
    rcases List.mem_append.1 hk with hk | hk
    · exact h.telemetry k event hk
    · rw [show k = state.serial from progressed.calls _ hk]
      exact List.mem_of_getLast? hlast
  · intro st hst
    rw [hstate, Option.some.injEq] at hst
    subst hst
    rw [hreport, same.serial, htrace, report_append progressed.calls, Bool.or_eq_true,
      h.report state hs]
  · intro st hst
    rw [hstate, Option.some.injEq] at hst
    subst hst
    rw [hdone, same.serial, htrace, runtimeDone_append progressed.calls, Bool.or_eq_true,
      h.runtimeDone state hs]

/-- The current invocation is concluded. -/
theorem off {state : InvocationProcessingState} {event : LambdaTelemetry}
    {logs : List RawFunctionLog} (h : Enrolled requests s) (hs : s.invocationState = some state)
    (progressed : Progressed state [.telemetry state.serial event] s s')
    (htrace : s'.trace = s.trace ++ [.telemetry state.serial event, .concluded state.serial logs])
    (hstate : s'.invocationState = none) (hinit : s'.initHandled = true) : Enrolled requests s' := by
  have htaken : takenInvocations s'.trace = takenInvocations s.trace := by
    rw [htrace, takenInvocations_append]
    exact List.append_nil _
  have hmem : state.serial ∈ takenInvocations s.trace :=
    List.mem_of_getLast? (h.current state hs).2
  have hnone (P : InvocationProcessingState → Prop) :
      ∀ st, s'.invocationState = some st → P st := by
    intro st hst
    rw [hstate] at hst
    cases hst
  refine ⟨?_, ?_, ?_, hnone _, ?_, ?_, ?_, hnone _, hnone _⟩
  · rw [progressed.enqueued, h.enqueued]
  · rw [htaken, progressed.queue, h.taken]
  · rw [progressed.queue]
    exact h.requestIds
  · intro k hk
    have hk : .created k ∈ s.trace := by simpa [htrace] using hk
    refine .inl ?_
    rcases h.created k hk with ⟨logs', hlogs'⟩ | ⟨st, hst, rfl⟩
    · exact ⟨logs', htrace ▸ List.mem_append_left _ hlogs'⟩
    · rw [hs, Option.some.injEq] at hst
      subst hst
      exact ⟨logs, by simp [htrace]⟩
  · rintro k ⟨logs', hlogs'⟩
    refine ⟨?_, hinit, hnone _⟩
    rw [htrace] at hlogs'
    rw [htaken]
    rcases List.mem_append.1 hlogs' with hlogs' | hlogs'
    · exact (h.concluded k ⟨logs', hlogs'⟩).1
    · simp only [List.mem_cons, reduceCtorEq, ProcessorCall.concluded.injEq, List.not_mem_nil,
        or_false, false_or] at hlogs'
      rw [hlogs'.1]
      exact hmem
  · intro k e hk
    rw [htrace] at hk
    rw [htaken]
    rcases List.mem_append.1 hk with hk | hk
    · exact h.telemetry k e hk
    · simp only [List.mem_cons, reduceCtorEq, ProcessorCall.telemetry.injEq, List.not_mem_nil,
        or_false] at hk
      rw [hk.1]
      exact hmem

/-- The first invoke event leaves the queue. -/
theorem taken_of_pop {e : InvokeEventDataWithSpans} {queue : List InvokeEventDataWithSpans}
    {calls : List ProcessorCall} (h : Enrolled requests s) (hqueue : s.invokeEventQueue = e :: queue)
    (hcalls : takenInvocations calls = [e.serial]) :
    takenInvocations (s.trace ++ calls) ++ queue.map (·.serial) = List.range requests.length := by
  rw [← h.taken, hqueue, takenInvocations_append, hcalls]
  simp

/-- The next invocation becomes the current one. -/
theorem create {e : InvokeEventDataWithSpans} {queue : List InvokeEventDataWithSpans}
    {state : InvocationProcessingState} {calls : List ProcessorCall} (h : Enrolled requests s)
    (hs : s.invocationState = none) (hqueue : s.invokeEventQueue = e :: queue)
    (htrace : s'.trace = s.trace ++ .created e.serial :: calls)
    (hcalls : ∀ call ∈ calls, ∃ spans, call = .functionSpans e.serial spans)
    (henqueued : s'.enqueued = s.enqueued) (hqueue' : s'.invokeEventQueue = queue)
    (hstate : s'.invocationState = some state) (hinit : s'.initHandled = s.initHandled)
    (hserial : state.serial = e.serial) (hid : state.invocationContext.requestId = e.requestId)
    (hreport : state.reportData = none) (hdone : state.runtimeDoneData = none) :
    Enrolled requests s' := by
  have he : e ∈ s.invokeEventQueue := by
    rw [hqueue]
    exact List.mem_cons_self
  have hspans : takenInvocations calls = [] := by
    apply List.filterMap_eq_nil_iff.2
    intro call hcall
    obtain ⟨spans, rfl⟩ := hcalls call hcall
    rfl
  have htaken : takenInvocations (.created e.serial :: calls) = [e.serial] := by
    change e.serial :: takenInvocations calls = [e.serial]
    rw [hspans]
  have hconcluded : ∀ k, Concluded s'.trace k → Concluded s.trace k := by
    rintro k ⟨logs, hlogs⟩
    rw [htrace, List.mem_append, List.mem_cons] at hlogs
    rcases hlogs with hlogs | hlogs | hlogs
    · exact ⟨logs, hlogs⟩
    · cases hlogs
    · obtain ⟨_, hlogs⟩ := hcalls _ hlogs
      cases hlogs
  have htelemetry : ∀ k event, .telemetry k event ∈ s'.trace → k ∈ takenInvocations s.trace := by
    intro k event hk
    rw [htrace, List.mem_append, List.mem_cons] at hk
    rcases hk with hk | hk | hk
    · exact h.telemetry k event hk
    · cases hk
    · obtain ⟨_, hk⟩ := hcalls _ hk
      cases hk
  have fresh (kind : LambdaTelemetry → Bool) : ¬ Processed kind s'.trace state.serial := by
    rintro ⟨event, hmem, -⟩
    rw [hserial] at hmem
    exact h.not_mem_taken he (htelemetry _ _ hmem)
  have only (P : InvocationProcessingState → Prop) (hP : P state) :
      ∀ st, s'.invocationState = some st → P st := by
    intro st hst
    rw [hstate, Option.some.injEq] at hst
    exact hst ▸ hP
  have mono {k : Nat} (hk : k ∈ takenInvocations s.trace) : k ∈ takenInvocations s'.trace := by
    rw [htrace, takenInvocations_append]
    exact List.mem_append_left _ hk
  refine ⟨?_, ?_, ?_, only _ ⟨?_, ?_⟩, ?_, ?_, fun k event hk => mono (htelemetry k event hk),
    only _ ?_, only _ ?_⟩
  · rw [henqueued, h.enqueued]
  · rw [htrace, hqueue']
    exact h.taken_of_pop hqueue htaken
  · intro e' he'
    refine h.requestIds e' ?_
    rw [hqueue'] at he'
    rw [hqueue]
    exact List.mem_cons_of_mem _ he'
  · rw [hserial, hid]
    exact h.requestIds e he
  · rw [htrace, takenInvocations_append, htaken, hserial]
    exact List.getLast?_concat
  · intro k hk
    rw [htrace, List.mem_append, List.mem_cons] at hk
    rcases hk with hk | hk | hk
    · rcases h.created k hk with ⟨logs, hlogs⟩ | ⟨st, hst, -⟩
      · exact .inl ⟨logs, htrace ▸ List.mem_append_left _ hlogs⟩
      · rw [hs] at hst
        cases hst
    · cases hk
      exact .inr ⟨state, hstate, hserial⟩
    · obtain ⟨_, hk⟩ := hcalls _ hk
      cases hk
  · intro k hk
    obtain ⟨hmem, hinit', -⟩ := h.concluded k (hconcluded k hk)
    refine ⟨mono hmem, hinit.trans hinit', only _ fun heq => ?_⟩
    rw [← heq, hserial] at hmem
    exact h.not_mem_taken he hmem
  · simp [hreport, fresh]
  · simp [hdone, fresh]

/-- The next invoke event is dropped. -/
theorem reject {e : InvokeEventDataWithSpans} {queue : List InvokeEventDataWithSpans}
    (h : Enrolled requests s) (hs : s.invocationState = none)
    (hqueue : s.invokeEventQueue = e :: queue) (htrace : s'.trace = s.trace ++ [.rejected e.serial])
    (henqueued : s'.enqueued = s.enqueued) (hqueue' : s'.invokeEventQueue = queue)
    (hstate : s'.invocationState = none) (hinit : s'.initHandled = s.initHandled) :
    Enrolled requests s' := by
  have none (P : InvocationProcessingState → Prop) :
      ∀ st, s'.invocationState = some st → P st := by
    intro st hst
    rw [hstate] at hst
    cases hst
  refine ⟨?_, ?_, ?_, none _, ?_, ?_, ?_, none _, none _⟩
  · rw [henqueued, h.enqueued]
  · rw [htrace, hqueue']
    exact h.taken_of_pop hqueue rfl
  · intro e' he'
    refine h.requestIds e' ?_
    rw [hqueue'] at he'
    rw [hqueue]
    exact List.mem_cons_of_mem _ he'
  · intro k hk
    have hk : .created k ∈ s.trace := by simpa [htrace] using hk
    rcases h.created k hk with ⟨logs, hlogs⟩ | ⟨st, hst, -⟩
    · exact .inl ⟨logs, htrace ▸ List.mem_append_left _ hlogs⟩
    · rw [hs] at hst
      cases hst
  · rintro k ⟨logs, hlogs⟩
    have hlogs : .concluded k logs ∈ s.trace := by simpa [htrace] using hlogs
    obtain ⟨hmem, hinit', -⟩ := h.concluded k ⟨logs, hlogs⟩
    refine ⟨?_, hinit.trans hinit', none _⟩
    rw [htrace, takenInvocations_append]
    exact List.mem_append_left _ hmem
  · intro k event hk
    have hk : .telemetry k event ∈ s.trace := by simpa [htrace] using hk
    rw [htrace, takenInvocations_append]
    exact List.mem_append_left _ (h.telemetry k event hk)

end Enrolled

section

variable [External] {config : TelemetryServiceConfig} {requests : List InvokeEvent}
  {s s' : TelemetryServiceState}

omit [External] in
theorem mem_extendLastSpans {spans : List ResourceSpans} {queue : List InvokeEventDataWithSpans}
    {e : InvokeEventDataWithSpans} (h : e ∈ extendLastSpans spans queue) :
    ∃ e' ∈ queue, e'.serial = e.serial ∧ e'.requestId = e.requestId := by
  induction queue using extendLastSpans.induct with
  | case1 => cases h
  | case2 last =>
    rw [extendLastSpans, List.mem_singleton] at h
    subst h
    exact ⟨last, List.mem_singleton_self _, rfl, rfl⟩
  | case3 first second rest ih =>
    rw [extendLastSpans, List.mem_cons] at h
    rcases h with rfl | h
    · exact ⟨e, List.mem_cons_self, rfl, rfl⟩
    · obtain ⟨e', he', heq⟩ := ih h
      exact ⟨e', List.mem_cons_of_mem _ he', heq⟩

omit [External] in
theorem extendLastSpans_serial (spans : List ResourceSpans)
    (queue : List InvokeEventDataWithSpans) :
    (extendLastSpans spans queue).map (·.serial) = queue.map (·.serial) := by
  induction queue using extendLastSpans.induct with
  | case1 => rfl
  | case2 last => rfl
  | case3 first second rest ih =>
    rw [extendLastSpans, List.map_cons, ih]
    rfl

omit [External] in
theorem Acquired.enrolled [External] {o : Outcome (Option InvocationProcessingState)}
    (h : Acquired config s o) (hs : Enrolled requests s) : Enrolled requests o.1 := by
  cases h with
  | current => exact hs
  | nothing => exact hs
  | created e queue state out rng hnone hqueue fresh =>
    refine hs.create hnone hqueue rfl ?_ rfl rfl rfl rfl fresh.serial fresh.requestId
      fresh.reportData fresh.runtimeDoneData
    simp
  | rejected e queue rng error hnone hqueue => exact hs.reject hnone hqueue rfl rfl rfl hnone rfl

theorem Handled.enrolled {state : InvocationProcessingState} {event : LambdaTelemetry}
    {queue : List LambdaTelemetry} {o : Outcome Bool}
    (h : Handled config state event { s with telemetryEventQueue := queue } o)
    (hstate : s.invocationState = some state) (hs : Enrolled requests s) :
    Enrolled requests o.1 := by
  cases h.proceeds hstate with
  | on state' calls progressed htrace hstate' same hreport hdone =>
    exact hs.on hstate progressed htrace hstate' same hreport hdone
  | off logs event progressed htrace hstate' hinit hreport =>
    exact hs.off hstate progressed htrace hstate' hinit

theorem Received.enrolled {spans : List ResourceSpans} (h : Received config spans s s')
    (hs : Enrolled requests s) : Enrolled requests s' := by
  cases h with
  | queued hqueue =>
    refine ⟨hs.enqueued, ?_, fun e he => ?_, hs.current, hs.created, hs.concluded, hs.telemetry,
      hs.report, hs.runtimeDone⟩
    · rw [extendLastSpans_serial]
      exact hs.taken
    · obtain ⟨e', he', hserial, hid⟩ := mem_extendLastSpans he
      rw [← hserial, ← hid]
      exact hs.requestIds e' he'
  | waiting => exact hs.congr rfl rfl rfl rfl rfl
  | processed state state' out hqueue hstate hdone carries noLogs =>
    refine hs.on hstate ⟨rfl, rfl, rfl, id, ?_⟩ rfl rfl carries.same ?_ ?_
    · simp [ProcessorCall.IsFor]
    · simpa [ProcessorCall.isReport] using carries.reportData
    · simpa [ProcessorCall.isRuntimeDone] using carries.runtimeDoneData

theorem enrolled_invariant : ServiceInvariant config (fun h s => Enrolled h.requests s) where
  start _ := by
    refine ⟨rfl, rfl, ?_, ?_, ?_, ?_, ?_, ?_, ?_⟩ <;>
      simp [TelemetryService.new, Concluded]
  core {h s s'} _ hs hcore := by
    have same := SameCore.of_core hcore
    exact hs.congr same.enqueued same.trace same.invokeEventQueue same.invocationState
      same.initHandled
  acquired _ hs acquired := acquired.enrolled hs
  handled _ hs hstate hqueue handled := handled.enrolled hstate hs
  enqueued {h s} e functionContext _ hs := by
    have hlength : (h.requests ++ [e]).length = h.requests.length + 1 := by simp
    have append {k : Nat} {id : String} (hid : (h.requests.map (·.requestId))[k]? = some id) :
        ((h.requests ++ [e]).map (·.requestId))[k]? = some id := by
      obtain ⟨hk, -⟩ := List.getElem?_eq_some_iff.1 hid
      rw [List.map_append, List.getElem?_append_left hk, hid]
    refine ⟨?_, ?_, fun e' he' => ?_, fun state hstate => ?_, hs.created, hs.concluded,
      hs.telemetry, hs.report, hs.runtimeDone⟩
    · rw [hlength, ← hs.enqueued]
      rfl
    · rw [hlength, List.range_succ, ← hs.taken]
      simp [pushInvokeEvent, hs.enqueued]
    · rcases List.mem_append.1 he' with he' | he'
      · exact append (hs.requestIds e' he')
      · rw [List.mem_singleton] at he'
        subst he'
        simp [hs.enqueued]
    · obtain ⟨hid, hlast⟩ := hs.current state hstate
      exact ⟨append hid, hlast⟩
  accepted _ _ hs := hs.congr rfl rfl rfl rfl rfl
  received _ hs received := received.enrolled hs
  metrics _ _ _ hs := hs.congr rfl rfl rfl rfl rfl
  sent {h s} functionContext _ hs := by
    obtain ⟨_, _, _, -, heq⟩ := @sendTelemetry_state config s functionContext
    rw [heq]
    exact hs.congr rfl rfl rfl rfl rfl

end

end TelemetryExporter
