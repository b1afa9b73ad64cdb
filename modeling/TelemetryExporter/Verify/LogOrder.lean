import TelemetryExporter.Lib.Split
import TelemetryExporter.Lib.Stamps
import TelemetryExporter.Verify.Inputs

/-!
# The order of an invocation's logs

`make_log_timestamp` counts up within a millisecond so that sorting by the timestamp keeps the order
of the logs. The counter starts again with each change of the millisecond, and `process_delayed_logs`
stamps the start log before the function logs that came before it: if one of the other logs has the
millisecond of `PlatformStart`, the order is lost, or two logs get one timestamp.
-/

namespace TelemetryExporter

open Machine

/-! ## The logs that events cause -/

section

variable [External]

/-- The source of the log that an event causes, if it causes one. -/
def causedLog (config : TelemetryProcessorConfig) (invocation : Option Nat)
    (event : LambdaTelemetry) : Option LogSource :=
  if config.logMode = .structured then
    match event.record with
    | .function _ => (functionLog event).map (RawFunctionLog.source invocation)
    | .platformStart .. => if config.platformLogSet.start then some (.start invocation) else none
    | .platformRuntimeDone .. =>
      if config.platformLogSet.runtimeDone then some (.runtimeDone invocation) else none
    | .platformReport .. => if config.platformLogSet.report then some (.report invocation) else none
    | _ => none
  else none

/-- The events that cause a log. -/
def logged (config : TelemetryProcessorConfig) (events : List LambdaTelemetry) :
    List LambdaTelemetry :=
  events.filter fun event => (causedLog config none event).isSome

/-- The event causes a log in the millisecond. -/
def isLogOfMilli (config : TelemetryProcessorConfig) (millis : Int) (event : LambdaTelemetry) : Bool :=
  event.timestampMillis = millis ∧ (causedLog config none event).isSome

/-- The number of events of a millisecond that cause a log. -/
def logsInMilli (config : TelemetryProcessorConfig) (events : List LambdaTelemetry)
    (millis : Int) : Nat :=
  events.countP (isLogOfMilli config millis)

/-- The record is the log of the event, stamped within the event's millisecond. -/
def LogRecord.CausedBy (config : TelemetryProcessorConfig) (invocation : Option Nat)
    (record : LogRecord) (event : LambdaTelemetry) : Prop :=
  causedLog config invocation event = some record.source ∧
    event.timestampMillis * 1000000 ≤ record.timeUnixNano ∧
    record.timeUnixNano < event.timestampMillis * 1000000 + 1000000

/-- Sorted by their timestamps, which are all different, the records are in the order of the events
that caused them. -/
def SortsByArrival (config : TelemetryProcessorConfig) (invocation : Option Nat)
    (events : List LambdaTelemetry) (records : List LogRecord) : Prop :=
  ∃ sorted : List (LambdaTelemetry × LogRecord),
    (sorted.map Prod.snd).Perm records ∧
    (sorted.map fun x => x.2.timeUnixNano).Pairwise (· < ·) ∧
    (sorted.map Prod.fst).Sublist events ∧
    ∀ x ∈ sorted, x.2.CausedBy config invocation x.1

/-- Sorted by their timestamps, which are all different, the records are the logs of the events, one of
each, in their order. -/
def SortInto (config : TelemetryProcessorConfig) (invocation : Option Nat)
    (events : List LambdaTelemetry) (records : List LogRecord) : Prop :=
  ∃ sorted : List (LambdaTelemetry × LogRecord),
    (sorted.map Prod.snd).Perm records ∧
    (sorted.map fun x => x.2.timeUnixNano).Pairwise (· < ·) ∧
    sorted.map Prod.fst = events ∧
    ∀ x ∈ sorted, x.2.CausedBy config invocation x.1

/-! ## The timestamps of a sequence of logs -/

/-- The timestamps that logs get one after the other. -/
def logTimestamps : LastLogState → List OffsetDateTime → List Nat
  | _, [] => []
  | state, t :: ts => (makeLogTimestamp state t).1 :: logTimestamps (makeLogTimestamp state t).2 ts

/-- The state after the logs have been stamped. -/
def lastLogStateAfter (state : LastLogState) (times : List OffsetDateTime) : LastLogState :=
  times.foldl (fun state t => (makeLogTimestamp state t).2) state

omit [External] in
theorem logTimestamps_append (state : LastLogState) (a b : List OffsetDateTime) :
    logTimestamps state (a ++ b) =
      logTimestamps state a ++ logTimestamps (lastLogStateAfter state a) b := by
  induction a generalizing state with
  | nil => rfl
  | cons t a ih => exact congrArg (_ :: ·) (ih _)

omit [External] in
theorem lastLogStateAfter_append (state : LastLogState) (a b : List OffsetDateTime) :
    lastLogStateAfter state (a ++ b) = lastLogStateAfter (lastLogStateAfter state a) b :=
  List.foldl_append

omit [External] in
/-- A log's timestamp, where the counter stays below a million and the sum fits. -/
theorem makeLogTimestamp_eq {state : LastLogState} {t : Int} (ht : 0 ≤ t) (hsize : t < UInt64.size)
    (hsame : t = state.lastLogTimestamp →
      state.lastLogSubindex + 1 < 1000000 ∧ t + (state.lastLogSubindex + 1 : Nat) < UInt64.size) :
    makeLogTimestamp state t =
      if t = state.lastLogTimestamp then
        ((t + (state.lastLogSubindex + 1 : Nat)).toNat,
          { state with lastLogSubindex := state.lastLogSubindex + 1 })
      else (t.toNat, { lastLogTimestamp := t, lastLogSubindex := 0 }) := by
  have hnonneg : ¬ t < 0 := by omega
  have hmin : min t.toNat (UInt64.size - 1) = t.toNat := by omega
  have hnanos : (if t < 0 then 0 else min t.toNat (UInt64.size - 1)) = t.toNat := by
    rw [if_neg hnonneg, hmin]
  unfold makeLogTimestamp
  rw [hnanos]
  by_cases h : t = state.lastLogTimestamp
  · obtain ⟨hlimit, hfits⟩ := hsame h
    have hindex : (state.lastLogSubindex + 1) % UInt32.size = state.lastLogSubindex + 1 := by
      rw [Nat.mod_eq_of_lt]
      unfold UInt32.size
      omega
    have hsum : wrappingAdd t.toNat (min (state.lastLogSubindex + 1) 999999) =
        (t + (state.lastLogSubindex + 1 : Nat)).toNat := by
      unfold wrappingAdd
      rw [Nat.min_eq_left (by omega), Nat.mod_eq_of_lt (by omega)]
      omega
    rw [if_pos h, if_pos h, hindex]
    exact congrArg (·, _) hsum
  · rw [if_neg h, if_neg h]

omit [External] in
/-- Where no counter reaches a million and every sum fits, the timestamps are those of a clock that
counts up within a millisecond. -/
theorem logTimestamps_eq {state : LastLogState} {times : List Int}
    (hrange : ∀ t ∈ times, 0 ≤ t ∧ t < UInt64.size)
    (hload : ∀ t ∈ times,
      Stamps.load state.lastLogTimestamp state.lastLogSubindex times t ≤ 1000000 ∧
      t + Stamps.load state.lastLogTimestamp state.lastLogSubindex times t ≤ UInt64.size) :
    (logTimestamps state times).map Int.ofNat =
      Stamps.stamps state.lastLogTimestamp state.lastLogSubindex times := by
  induction times generalizing state with
  | nil => rfl
  | cons t ts ih =>
    obtain ⟨ht, hsize⟩ := hrange t List.mem_cons_self
    have hsame (h : t = state.lastLogTimestamp) :
        state.lastLogSubindex + 1 < 1000000 ∧
          t + (state.lastLogSubindex + 1 : Nat) < UInt64.size := by
      have hbound := hload t List.mem_cons_self
      unfold Stamps.load at hbound
      rw [if_pos h, List.count_cons_self] at hbound
      omega
    have hrest := fun u hu => hrange u (List.mem_cons_of_mem t hu)
    unfold logTimestamps Stamps.stamps
    rw [makeLogTimestamp_eq ht hsize hsame]
    by_cases h : t = state.lastLogTimestamp
    · rw [if_pos h, if_pos h, List.map_cons, ih hrest]
      · have hnonneg : 0 ≤ t + (state.lastLogSubindex + 1 : Nat) := by omega
        have hstamp : Int.ofNat (t + (state.lastLogSubindex + 1 : Nat)).toNat =
            t + (state.lastLogSubindex + 1 : Nat) :=
          Int.toNat_of_nonneg hnonneg
        rw [hstamp, h]
      · intro u hu
        have hu := hload u (List.mem_cons_of_mem _ hu)
        rw [← h, ← Stamps.load_cons_same] at hu
        rw [← h]
        exact hu
    · rw [if_neg h, if_neg h, List.map_cons, ih hrest]
      · exact congrArg (· :: _) (Int.toNat_of_nonneg ht)
      · intro u hu
        have hle : Stamps.load t 0 ts u ≤
            Stamps.load state.lastLogTimestamp state.lastLogSubindex (t :: ts) u :=
          Stamps.load_cons_other h u
        obtain ⟨hlimit, hfits⟩ := hload u (List.mem_cons_of_mem _ hu)
        change Stamps.load t 0 ts u ≤ 1000000 ∧ u + (Stamps.load t 0 ts u : Int) ≤ UInt64.size
        omega

/-! ## Emitting logs -/

/-- The logs of the events have been pushed, one after the other. -/
structure Emits (config : TelemetryProcessorConfig) (causes : List LambdaTelemetry)
    (p p' : Processing InvocationProcessingState) : Prop where
  serial : p'.state.serial = p.state.serial
  lastLogState : p'.state.lastLogState = lastLogStateAfter p.state.lastLogState (causes.map (·.nanos))
  logs : ∃ records, p'.outputBuffers.logsBuffer = p.outputBuffers.logsBuffer ++ records ∧
    List.Forall₂ (fun event record => causedLog config (some p.state.serial) event = some record.source)
      causes records ∧
    records.map (·.timeUnixNano) = logTimestamps p.state.lastLogState (causes.map (·.nanos))

variable {config : TelemetryProcessorConfig} {p q p' : Processing InvocationProcessingState}

namespace Emits

/-- Nothing the logs depend on has changed. -/
theorem none (hserial : p'.state.serial = p.state.serial)
    (hlast : p'.state.lastLogState = p.state.lastLogState)
    (hlogs : p'.outputBuffers.logsBuffer = p.outputBuffers.logsBuffer) : Emits config [] p p' :=
  ⟨hserial, hlast, [], by rw [hlogs, List.append_nil], .nil, rfl⟩

theorem trans {a b : List LambdaTelemetry} (h : Emits config a p q) (h' : Emits config b q p') :
    Emits config (a ++ b) p p' := by
  obtain ⟨records, hlogs, hsources, htimes⟩ := h.logs
  obtain ⟨records', hlogs', hsources', htimes'⟩ := h'.logs
  rw [h.serial] at hsources'
  refine ⟨h'.serial.trans h.serial, ?_, records ++ records', ?_, ?_, ?_⟩
  · rw [h'.lastLogState, h.lastLogState, List.map_append, lastLogStateAfter_append]
  · rw [hlogs', hlogs, List.append_assoc]
  · exact List.rel_append hsources hsources'
  · rw [List.map_append, List.map_append, logTimestamps_append, htimes, htimes', h.lastLogState]

/-- After something that no log depends on. -/
theorem of_left {causes : List LambdaTelemetry} (h : Emits config [] p q)
    (h' : Emits config causes q p') : Emits config causes p p' := h.trans h'

/-- Before something that no log depends on. -/
theorem of_right {causes : List LambdaTelemetry} (h : Emits config causes p q)
    (h' : Emits config [] q p') : Emits config causes p p' := by
  have := h.trans h'
  rwa [List.append_nil] at this

/-- One log maker. -/
theorem pushLog {makeLog : InvocationProcessingState → LogRecord × InvocationProcessingState}
    {event : LambdaTelemetry}
    (hsource : causedLog config (some p.state.serial) event = some (makeLog p.state).1.source)
    (htime : (makeLog p.state).1.timeUnixNano =
      (makeLogTimestamp p.state.lastLogState event.nanos).1)
    (hstate : (makeLog p.state).2 =
      { p.state with lastLogState := (makeLogTimestamp p.state.lastLogState event.nanos).2 }) :
    Emits config [event] p (p.pushLog makeLog) := by
  refine ⟨?_, ?_, [(makeLog p.state).1], rfl, .cons hsource .nil, ?_⟩
  · rw [Processing.pushLog_state, hstate]
  · rw [Processing.pushLog_state, hstate]
    rfl
  · exact congrArg (fun t => [t]) htime

end Emits

/-- The function logs that are held back are those of the events, in order. -/
def Holds (held : List LambdaTelemetry) (logs : List RawFunctionLog) : Prop :=
  held.map functionLog = logs.map some

theorem causedLog_of_functionLog {event : LambdaTelemetry} {log : RawFunctionLog}
    {invocation : Option Nat} (hmode : config.logMode = .structured)
    (h : functionLog event = some log) :
    causedLog config invocation event = some (log.source invocation) ∧ log.time = event.nanos := by
  unfold causedLog
  rw [if_pos hmode]
  have h' := h
  unfold functionLog at h'
  cases hrecord : event.record with
  | function logText =>
    simp only [hrecord] at h'
    simp only [h, Option.map_some, true_and]
    split at h'
    · cases h'
      rfl
    · cases h'
  | _ =>
    simp only [hrecord] at h'
    cases h'

theorem pushFunctionLogs_emits (hmode : config.logMode = .structured) {held : List LambdaTelemetry}
    {logs : List RawFunctionLog} (h : Holds held logs) :
    Emits config held p (pushFunctionLogs config logs p) := by
  induction logs generalizing held p with
  | nil =>
    have hnil : held = [] := List.map_eq_nil_iff.1 h
    rw [hnil]
    exact .none rfl rfl rfl
  | cons log logs ih =>
    obtain ⟨event, held, rfl, hlog, hrest⟩ := List.map_eq_cons_iff.1 h
    obtain ⟨hcaused, htime⟩ := @causedLog_of_functionLog _ config _ _ (some p.state.serial) hmode hlog
    have hfirst : Emits config [event] p
        (p.pushLog fun s => makeFunctionLog config s log.logText log.time) := by
      refine .pushLog hcaused ?_ ?_
      · rw [← htime]
        rfl
      · rw [← htime]
        rfl
    exact hfirst.trans (ih hrest)

theorem takeLogs_emits (hmode : config.logMode = .structured) {held : List LambdaTelemetry}
    (h : Holds held p.state.logs) : Emits config held p (takeLogs config p) := by
  have htaken : Emits config [] p { p with state := { p.state with logs := [] } } :=
    .none rfl rfl rfl
  exact htaken.of_left (pushFunctionLogs_emits hmode h)

theorem takeLogs_state : ∃ l, (takeLogs config p).state =
    { p.state with logs := [], lastLogState := l } := by
  obtain ⟨l, records, heq, -⟩ := @takeLogs_flushed p _ config
  exact ⟨l, by rw [heq]⟩

theorem causedLog_of_start {event : LambdaTelemetry} {invocation : Option Nat}
    (hmode : config.logMode = .structured) (hstart : config.platformLogSet.start = true)
    (hevent : event.isStart = true) :
    causedLog config invocation event = some (.start invocation) := by
  unfold LambdaTelemetry.isStart at hevent
  unfold causedLog
  rw [if_pos hmode]
  cases hrecord : event.record with
  | platformStart =>
    simp only [hstart]
    rfl
  | _ =>
    simp only [hrecord] at hevent
    cases hevent

theorem startLog_emits {data : PlatformStartData} {event : LambdaTelemetry}
    (hmode : config.logMode = .structured) (hstart : config.platformLogSet.start = true)
    (hevent : event.isStart = true) (htime : data.time = event.nanos) :
    Emits config [event] p (p.pushLog fun s => makePlatformStartLog config s data) := by
  refine .pushLog ?_ ?_ ?_
  · rw [makePlatformStartLog_source]
    exact causedLog_of_start hmode hstart hevent
  · rw [← htime]
    exact (makePlatformStartLog_stampedBy _ _ data).timeUnixNano
  · rw [← htime]
    rfl

/-! ## The order of the logs -/

/-- At most one event of the event's millisecond causes a log. -/
def AloneInMilli (config : TelemetryProcessorConfig) (events : List LambdaTelemetry)
    (event : LambdaTelemetry) : Prop :=
  logsInMilli config events event.timestampMillis ≤ 1

instance (config : TelemetryProcessorConfig) (events : List LambdaTelemetry)
    (event : LambdaTelemetry) : Decidable (AloneInMilli config events event) :=
  inferInstanceAs (Decidable (_ ≤ 1))

/-- The input lets go of a start log that is held back: the logs are delayed no longer after the end of
the runtime, or after the early span of the invocation. -/
def ReleasesStart (config : TelemetryProcessorConfig) (state : InvocationProcessingState)
    (input : InvocationInput) : Prop :=
  config.logMode = .structured ∧ config.platformLogSet.start = true ∧ state.delayingLogs = true ∧
    state.startData.isSome = true ∧
    match input with
    | .telemetry event => event.isRuntimeDone = true
    | .functionSpans spans =>
      (processFunctionSpansTracing config state.tracingState spans).1.cxEarlyInvocationSpan.isSome = true

/-- The start log that is held back gets its place. Either the logs held back are all those of the
events since the start, so that it is stamped in its place; or it is the only log of its millisecond,
and no log that is still to be stamped has the millisecond of the last one that has been. -/
def StartInTurn (config : TelemetryProcessorConfig) (past coming : List LambdaTelemetry)
    (state : InvocationProcessingState) : Prop :=
  ∃ before start after, past = before ++ start :: after ∧ start.isStart = true ∧
    (∀ event ∈ after, event.isStart = false) ∧
    (Holds (logged config after) state.logs ∨
      AloneInMilli config (past ++ coming) start ∧
        (state.reportData = none ∨
          (∀ log ∈ state.logs, log.time ≠ state.lastLogState.lastLogTimestamp) ∧
            ∀ event ∈ logged config coming, event.nanos ≠ state.lastLogState.lastLogTimestamp))

/-- `StartInTurn`, in terms of the events of the logs emitted so far. -/
def StartPlaced (config : TelemetryProcessorConfig) (past coming causes : List LambdaTelemetry)
    (state : InvocationProcessingState) : Prop :=
  ∃ before start after, past = before ++ start :: after ∧ start.isStart = true ∧
    (∀ event ∈ after, event.isStart = false) ∧
    (Holds (logged config after) state.logs ∨
      AloneInMilli config (past ++ coming) start ∧
        ∀ last ∈ causes.getLast?, (∀ log ∈ state.logs, log.time ≠ last.nanos) ∧
          ∀ event ∈ logged config coming, event.nanos ≠ last.nanos)

/-- The events of the past that cause a log, in their order. Where the logs are delayed, a start makes
the code forget an earlier one. -/
structure Arrived (config : TelemetryProcessorConfig) (past ordered : List LambdaTelemetry) :
    Prop where
  sublist : ordered.Sublist (logged config past)
  complete : past.countP LambdaTelemetry.isStart ≤ 1 → ordered = logged config past

/-- The logs have been stamped in the order of their events, but for a start log that is the only log of
its millisecond, and does not come between two logs of another one. -/
inductive Released (config : TelemetryProcessorConfig) (past coming causes : List LambdaTelemetry) :
    Prop where
  | inOrder (harrived : Arrived config past causes)
  | startApart (first : List LambdaTelemetry) (start : LambdaTelemetry)
      (rest before after : List LambdaTelemetry) (hcauses : causes = first ++ start :: rest)
      (harrived : Arrived config past (before ++ start :: after))
      (hothers : before ++ after = first ++ rest)
      (halone : AloneInMilli config (past ++ coming) start)
      (happart : ∀ last ∈ first.getLast?, ∀ event ∈ rest ++ logged config coming,
        event.nanos ≠ last.nanos)

/-- How the events of the logs emitted so far, and of those held back, are ordered. -/
inductive LogOrder (config : TelemetryProcessorConfig) (past coming : List LambdaTelemetry)
    (state : InvocationProcessingState) (causes : List LambdaTelemetry) : Prop where
  | off (hmode : config.logMode ≠ .structured) (hcauses : causes = [])
  | immediate (hmode : config.logMode = .structured) (hdelaying : state.delayingLogs = false)
      (hlogs : state.logs = []) (horder : Released config past coming causes)
  | delayed (hmode : config.logMode = .structured) (hdelaying : state.delayingLogs = true)
      (hstart : config.platformLogSet.start = true →
        state.startData = none ∧ ∀ event ∈ past, event.isStart = false)
      (held : List LambdaTelemetry) (hheld : Holds held state.logs)
      (horder : causes ++ held = logged config past) (hreport : state.reportData = none → causes = [])
  | startDelayed (hmode : config.logMode = .structured) (hdelaying : state.delayingLogs = true)
      (hstart : config.platformLogSet.start = true) (data : PlatformStartData)
      (hdata : state.startData = some data) (before : List LambdaTelemetry) (start : LambdaTelemetry)
      (after : List LambdaTelemetry) (hpast : past = before ++ start :: after)
      (hevent : start.isStart = true) (hafter : ∀ event ∈ after, event.isStart = false)
      (htime : data.time = start.nanos) (first second held held' : List LambdaTelemetry)
      (hheld : Holds (held ++ held') state.logs)
      (hearlier : (logged config before).filter (fun event => !event.isStart) = first ++ held)
      (hlater : logged config after = second ++ held') (hcauses : causes = first ++ second)
      (hone : held = [] ∨ second = []) (hreport : state.reportData = none → causes = [])

variable {past coming causes : List LambdaTelemetry} {event : LambdaTelemetry}

theorem isSome_causedLog (invocation : Option Nat) (event : LambdaTelemetry) :
    (causedLog config invocation event).isSome = (causedLog config none event).isSome := by
  unfold causedLog
  split
  · cases event.record with
    | function => simp only [Option.isSome_map]
    | platformStart =>
      simp only
      split <;> rfl
    | platformRuntimeDone =>
      simp only
      split <;> rfl
    | platformReport =>
      simp only
      split <;> rfl
    | _ => rfl
  · rfl

@[simp] theorem logged_append (a b : List LambdaTelemetry) :
    logged config (a ++ b) = logged config a ++ logged config b :=
  List.filter_append ..

theorem logged_cons (event : LambdaTelemetry) (events : List LambdaTelemetry) :
    logged config (event :: events) = logged config [event] ++ logged config events :=
  logged_append [event] events

/-- An event that causes a log is one of those. -/
theorem logged_singleton {invocation : Option Nat} {source : LogSource}
    (h : causedLog config invocation event = some source) : logged config [event] = [event] := by
  have hsome : (causedLog config none event).isSome = true := by
    rw [← isSome_causedLog invocation, h]
    rfl
  simp [logged, hsome]

theorem logged_start (hmode : config.logMode = .structured)
    (hstart : config.platformLogSet.start = true) (hevent : event.isStart = true) :
    logged config [event] = [event] :=
  @logged_singleton _ _ _ none _ (causedLog_of_start hmode hstart hevent)

/-- An event that causes none is not. -/
theorem logged_eq_nil {invocation : Option Nat} (h : causedLog config invocation event = none) :
    logged config [event] = [] := by
  have hnone : (causedLog config none event).isSome = false := by
    rw [← isSome_causedLog invocation, h]
    rfl
  simp [logged, hnone]

theorem logged_start_off (hoff : ¬ config.platformLogSet.start = true)
    (hevent : event.isStart = true) : logged config [event] = [] := by
  apply @logged_eq_nil _ _ _ none
  unfold LambdaTelemetry.isStart at hevent
  unfold causedLog
  split
  · cases hrecord : event.record with
    | platformStart => rfl
    | _ =>
      simp only [hrecord] at hevent
      cases hevent
  · rfl

theorem logged_eq_nil_of_off (hmode : config.logMode ≠ .structured) (events : List LambdaTelemetry) :
    logged config events = [] := by
  apply List.filter_eq_nil_iff.2
  intro event _
  unfold causedLog
  rw [if_neg hmode]
  exact Bool.false_ne_true

/-- Without other starts nothing is missing. -/
theorem filter_logged_eq (h : ∀ event ∈ past, event.isStart = false) :
    (logged config past).filter (fun event => !event.isStart) = logged config past := by
  apply List.filter_eq_self.2
  intro event hevent
  rw [h event (List.mem_of_mem_filter hevent)]
  rfl

namespace Arrived

theorem snoc {ordered : List LambdaTelemetry} (h : Arrived config past ordered)
    (event : LambdaTelemetry) :
    Arrived config (past ++ [event]) (ordered ++ logged config [event]) where
  sublist := by
    rw [logged_append]
    exact h.sublist.append (List.Sublist.refl _)
  complete hcount := by
    rw [List.countP_append] at hcount
    rw [logged_append, h.complete (by omega)]

/-- The start log in its place. -/
theorem of_start {before after first second held held' : List LambdaTelemetry}
    {start : LambdaTelemetry} (hlog : logged config [start] = [start]) (hevent : start.isStart = true)
    (hearlier : (logged config before).filter (fun event => !event.isStart) = first ++ held)
    (hlater : logged config after = second ++ held') :
    Arrived config (before ++ start :: after) (first ++ held ++ start :: (second ++ held')) where
  sublist := by
    rw [logged_append, logged_cons, hlog, ← hearlier, ← hlater]
    exact List.filter_sublist.append (List.Sublist.refl _)
  complete hcount := by
    rw [List.countP_append, List.countP_cons_of_pos hevent] at hcount
    have hnone : before.countP LambdaTelemetry.isStart = 0 := by omega
    have hbefore : ∀ event ∈ before, event.isStart = false := by
      intro event hmem
      exact Bool.eq_false_of_not_eq_true (List.countP_eq_zero.1 hnone event hmem)
    rw [filter_logged_eq hbefore] at hearlier
    rw [logged_append, logged_cons, hlog, hearlier, hlater]
    rfl

end Arrived

/-- One more event, whose log, if it causes one, is stamped at once. -/
theorem Released.step (h : Released config past (event :: coming) causes) :
    Released config (past ++ [event]) coming (causes ++ logged config [event]) := by
  cases h with
  | inOrder harrived => exact .inOrder (harrived.snoc event)
  | startApart first start rest before after hcauses harrived hothers halone happart =>
    refine .startApart first start (rest ++ logged config [event]) before
      (after ++ logged config [event]) ?_ ?_ ?_ ?_ ?_
    · rw [hcauses, List.append_assoc, List.cons_append]
    · have := harrived.snoc event
      rwa [List.append_assoc, List.cons_append] at this
    · rw [← List.append_assoc, hothers, List.append_assoc]
    · rwa [List.append_assoc]
    · rw [List.append_assoc, ← logged_cons]
      exact happart

theorem processDelayedLogs_of_start {data : PlatformStartData}
    (hstart : config.platformLogSet.start = true) (hdata : p.state.startData = some data) :
    processDelayedLogs config p =
      takeLogs config (p.pushLog fun s => makePlatformStartLog config s data) := by
  unfold processDelayedLogs
  rw [hdata]
  simp only [hstart, if_true]

theorem processDelayedLogs_of_noStart
    (h : config.platformLogSet.start = true → p.state.startData = none) :
    processDelayedLogs config p = takeLogs config p := by
  unfold processDelayedLogs
  cases hdata : p.state.startData with
  | none => rfl
  | some data =>
    have hoff : ¬ config.platformLogSet.start = true := by
      intro hon
      rw [h hon] at hdata
      cases hdata
    simp only
    rw [if_neg hoff]

/-- A log that is held back has the time of its event. -/
theorem Holds.exists_log {held : List LambdaTelemetry} {logs : List RawFunctionLog}
    (hmode : config.logMode = .structured) (h : Holds held logs) (hevent : event ∈ held) :
    ∃ log ∈ logs, log.time = event.nanos := by
  have hmem : functionLog event ∈ logs.map some := h ▸ List.mem_map_of_mem hevent
  obtain ⟨log, hlog, heq⟩ := List.mem_map.1 hmem
  exact ⟨log, hlog, (@causedLog_of_functionLog _ config event log none hmode heq.symm).2⟩

/-- Everything that is held back is emitted. -/
theorem processDelayedLogs_released (hmode : config.logMode = .structured)
    (hdelaying : p.state.delayingLogs = true) (h : LogOrder config past coming p.state causes)
    (hturn : config.platformLogSet.start = true → p.state.startData.isSome = true →
      StartPlaced config past coming causes p.state) :
    ∃ new,
      Emits config new p
        (processDelayedLogs config { p with state := { p.state with delayingLogs := false } }) ∧
      Released config past coming (causes ++ new) := by
  have hset : Emits config [] p { p with state := { p.state with delayingLogs := false } } :=
    .none rfl rfl rfl
  cases h with
  | off hmode' => exact absurd hmode hmode'
  | immediate _ hdelaying' =>
    rw [hdelaying] at hdelaying'
    cases hdelaying'
  | delayed _ _ hstart held hheld horder hreport =>
    refine ⟨held, hset.of_left ?_, .inOrder ?_⟩
    · rw [processDelayedLogs_of_noStart
        (p := { p with state := { p.state with delayingLogs := false } }) fun hon => (hstart hon).1]
      exact takeLogs_emits hmode hheld
    · rw [horder]
      exact ⟨List.Sublist.refl _, fun _ => rfl⟩
  | startDelayed _ _ hstart data hdata before start after hpast hevent hafter htime first second held
      held' hheld hearlier hlater hcauses hone hreport =>
    refine ⟨start :: (held ++ held'), hset.of_left ?_, ?_⟩
    · rw [processDelayedLogs_of_start
        (p := { p with state := { p.state with delayingLogs := false } }) hstart hdata]
      exact (startLog_emits hmode hstart hevent htime).trans (takeLogs_emits hmode hheld)
    have harrived : Arrived config past (first ++ held ++ start :: (second ++ held')) := by
      rw [hpast]
      exact .of_start (logged_start hmode hstart hevent) hevent hearlier hlater
    obtain ⟨before', start', after', hpast', hevent', hafter', hplace⟩ :=
      hturn hstart (by rw [hdata]; rfl)
    obtain ⟨rfl, rfl, rfl⟩ :=
      List.append_cons_inj_of_last hafter hafter' hevent hevent' (hpast.symm.trans hpast')
    rcases hplace with hall | ⟨halone, happart⟩
    · -- nothing has been emitted since the start, and nothing is held back from before it
      have hlengths : (second ++ held').length = (held ++ held').length := by
        have hlogs := congrArg List.length hall
        have hheld := congrArg List.length hheld
        rw [List.length_map, List.length_map] at hlogs hheld
        rw [← hlater, hlogs, hheld]
      rw [List.length_append, List.length_append] at hlengths
      have hnone : held = [] ∧ second = [] := by
        rcases hone with rfl | rfl
        · exact ⟨rfl, List.eq_nil_of_length_eq_zero (by rw [List.length_nil] at hlengths; omega)⟩
        · exact ⟨List.eq_nil_of_length_eq_zero (by rw [List.length_nil] at hlengths; omega), rfl⟩
      rw [hnone.1, hnone.2, List.append_nil, List.nil_append] at harrived
      refine .inOrder ?_
      rwa [hcauses, hnone.1, hnone.2, List.append_nil, List.nil_append]
    · refine .startApart (first ++ second) start (held ++ held') (first ++ held) (second ++ held') ?_
        harrived ?_ halone ?_
      · rw [hcauses]
      · rcases hone with rfl | rfl
        · simp only [List.append_nil, List.nil_append, List.append_assoc]
        · simp only [List.append_nil, List.nil_append, List.append_assoc]
      · intro last hlast event hmem
        rw [← hcauses] at hlast
        rcases List.mem_append.1 hmem with hmem | hmem
        · obtain ⟨log, hlog, htime⟩ := hheld.exists_log hmode hmem
          rw [← htime]
          exact (happart last hlast).1 log hlog
        · exact (happart last hlast).2 event hmem

theorem processDelayedLogs_state : ∃ l,
    (processDelayedLogs config { p with state := { p.state with delayingLogs := false } }).state =
      { p.state with delayingLogs := false, logs := [], lastLogState := l } := by
  obtain ⟨l, records, heq, -⟩ := @processDelayedLogs_flushed
    { p with state := { p.state with delayingLogs := false } } _ config
  exact ⟨l, by rw [heq]⟩

namespace LogOrder

/-- After an event that causes no log. -/
theorem skip {state : InvocationProcessingState}
    (h : LogOrder config past (event :: coming) state causes) (hnone : logged config [event] = []) :
    LogOrder config (past ++ [event]) coming state causes := by
  have hnotStart (hmode : config.logMode = .structured) (hon : config.platformLogSet.start = true) :
      event.isStart = false := by
    apply Bool.eq_false_of_not_eq_true
    intro hevent
    have hlog := logged_start hmode hon hevent
    rw [hnone] at hlog
    cases hlog
  cases h with
  | off hmode hcauses => exact .off hmode hcauses
  | immediate hmode hdelaying hlogs horder =>
    have := horder.step
    rw [hnone, List.append_nil] at this
    exact .immediate hmode hdelaying hlogs this
  | delayed hmode hdelaying hstart held hheld horder hreport =>
    refine .delayed hmode hdelaying (fun hon => ⟨(hstart hon).1, ?_⟩) held hheld ?_ hreport
    · exact List.forall_mem_append.2
        ⟨(hstart hon).2, List.forall_mem_singleton.2 (hnotStart hmode hon)⟩
    · rw [horder, logged_append, hnone, List.append_nil]
  | startDelayed hmode hdelaying hon data hdata before start after hpast hevent hafter htime first
      second held held' hheld hearlier hlater hcauses hone hreport =>
    refine .startDelayed hmode hdelaying hon data hdata before start (after ++ [event]) ?_ hevent ?_
      htime first second held held' hheld hearlier ?_ hcauses hone hreport
    · rw [hpast, List.append_assoc, List.cons_append]
    · exact List.forall_mem_append.2 ⟨hafter, List.forall_mem_singleton.2 (hnotStart hmode hon)⟩
    · rw [logged_append, hnone, List.append_nil, hlater]

/-- The order only depends on what is held back. -/
theorem congr {state state' : InvocationProcessingState}
    (h : LogOrder config past coming state causes)
    (hdelaying : state'.delayingLogs = state.delayingLogs) (hlogs : state'.logs = state.logs)
    (hstart : state'.startData = state.startData) (hreport : state'.reportData = state.reportData) :
    LogOrder config past coming state' causes := by
  cases h with
  | off hmode hcauses => exact .off hmode hcauses
  | immediate hmode hdelaying' hlogs' horder =>
    exact .immediate hmode (hdelaying.trans hdelaying') (hlogs.trans hlogs') horder
  | delayed hmode hdelaying' hstart' held hheld horder hreport' =>
    exact .delayed hmode (hdelaying.trans hdelaying')
      (fun hon => ⟨hstart.trans (hstart' hon).1, (hstart' hon).2⟩) held (hlogs ▸ hheld) horder
      (fun h => hreport' (hreport ▸ h))
  | startDelayed hmode hdelaying' hon data hdata before start after hpast hevent hafter htime first
      second held held' hheld hearlier hlater hcauses hone hreport' =>
    exact .startDelayed hmode (hdelaying.trans hdelaying') hon data (hstart.trans hdata) before start
      after hpast hevent hafter htime first second held held' (hlogs ▸ hheld) hearlier hlater hcauses
      hone (fun h => hreport' (hreport ▸ h))

end LogOrder

theorem Holds.snoc {held : List LambdaTelemetry} {logs : List RawFunctionLog} {log : RawFunctionLog}
    (h : Holds held logs) (hlog : functionLog event = some log) :
    Holds (held ++ [event]) (logs ++ [log]) := by
  unfold Holds at *
  rw [List.map_append, List.map_append, h]
  exact congrArg (fun x => logs.map some ++ [x]) hlog

/-- A log that the configuration may have switched off. -/
theorem pushLog_if {makeLog : InvocationProcessingState → LogRecord × InvocationProcessingState}
    {enabled : Prop} [Decidable enabled]
    (hsource : causedLog config (some p.state.serial) event =
      if enabled then some (makeLog p.state).1.source else none)
    (htime : (makeLog p.state).1.timeUnixNano = (makeLogTimestamp p.state.lastLogState event.nanos).1)
    (hstate : (makeLog p.state).2 =
      { p.state with lastLogState := (makeLogTimestamp p.state.lastLogState event.nanos).2 }) :
    Emits config (logged config [event]) p (if enabled then p.pushLog makeLog else p) ∧
      ∃ l, (if enabled then p.pushLog makeLog else p).state = { p.state with lastLogState := l } := by
  by_cases h : enabled
  · rw [if_pos h] at hsource ⊢
    rw [logged_singleton hsource]
    exact ⟨.pushLog hsource htime hstate, _, hstate⟩
  · rw [if_neg h] at hsource ⊢
    rw [logged_eq_nil hsource]
    exact ⟨.none rfl rfl rfl, p.state.lastLogState, rfl⟩

/-! ## One input -/

/-- Without structured logs nothing is emitted. -/
theorem processRecord_off (hmode : config.logMode ≠ .structured) (time : OffsetDateTime)
    (record : LambdaTelemetryRecord) : Emits config [] p (processRecord config time record p) := by
  have hspans (q : Processing InvocationProcessingState) :
      Emits config [] q (emitSpansAfterRuntimeDone config q) := by
    obtain ⟨hstate, hlogs, -⟩ := @emitSpansAfterRuntimeDone_eq q config
    exact .none (by rw [hstate]) (by rw [hstate]) hlogs
  unfold processRecord
  cases record with
  | function =>
    unfold processFunctionLog
    simp only
    rw [if_neg hmode]
    exact .none rfl rfl rfl
  | platformStart =>
    unfold processPlatformStart
    simp only
    rw [if_neg (fun h => hmode h.1)]
    exact .none rfl rfl rfl
  | platformRuntimeDone =>
    unfold processRuntimeDone stopDelayingLogs pushRuntimeDoneLog
    simp only
    rw [if_neg (fun h => hmode h.1), if_neg (fun h => hmode h.1)]
    exact Emits.of_left (q := setRuntimeDoneData _ p) (.none rfl rfl rfl) (hspans _)
  | platformReport =>
    unfold processReport pushReportLogs emitSpansAfterReport
    simp only
    rw [if_neg hmode]
    split
    · exact .none rfl rfl rfl
    · exact .none rfl rfl rfl
  | _ => exact .none rfl rfl rfl

theorem processFunctionLog_order {logText : String} (hmode : config.logMode = .structured)
    (hrecord : event.record = .function logText)
    (h : LogOrder config past (event :: coming) p.state causes) :
    ∃ new, Emits config new p (processFunctionLog config logText event.nanos p) ∧
      LogOrder config (past ++ [event]) coming
        (processFunctionLog config logText event.nanos p).state (causes ++ new) := by
  have hnotStart : event.isStart = false := by
    unfold LambdaTelemetry.isStart
    rw [hrecord]
  unfold processFunctionLog
  rw [if_pos hmode]
  cases htext : detectEpsagonTrace logText with
  | epsagonTraceJson trace =>
    have hnone : causedLog config none event = none := by
      unfold causedLog functionLog
      rw [if_pos hmode]
      simp only [hrecord, htext, Option.map_none]
    refine ⟨[], .none rfl rfl rfl, ?_⟩
    rw [List.append_nil]
    exact h.skip (logged_eq_nil hnone)
  | regularLog text =>
    have hfunctionLog : functionLog event = some { logText := text, time := event.nanos } := by
      unfold functionLog
      simp only [hrecord, htext]
    obtain ⟨hcaused, -⟩ :=
      @causedLog_of_functionLog _ config event _ (some p.state.serial) hmode hfunctionLog
    have hlog := logged_singleton hcaused
    simp only
    by_cases hdelaying : p.state.delayingLogs = true
    · rw [if_pos hdelaying]
      refine ⟨[], .none rfl rfl rfl, ?_⟩
      rw [List.append_nil]
      cases h with
      | off hoff => exact absurd hmode hoff
      | immediate _ hdelaying' =>
        rw [hdelaying] at hdelaying'
        cases hdelaying'
      | delayed _ _ hstart held hheld horder hreport =>
        refine .delayed hmode hdelaying (fun hon => ⟨(hstart hon).1, ?_⟩) (held ++ [event])
          (hheld.snoc hfunctionLog) ?_ hreport
        · exact List.forall_mem_append.2 ⟨(hstart hon).2, List.forall_mem_singleton.2 hnotStart⟩
        · rw [logged_append, hlog, ← horder, List.append_assoc]
      | startDelayed _ _ hon data hdata before start after hpast hevent hafter htime first second held
          held' hheld hearlier hlater hcauses hone hreport =>
        refine .startDelayed hmode hdelaying hon data hdata before start (after ++ [event]) ?_ hevent ?_
          htime first second held (held' ++ [event]) ?_ hearlier ?_ hcauses hone hreport
        · rw [hpast, List.append_assoc, List.cons_append]
        · exact List.forall_mem_append.2 ⟨hafter, List.forall_mem_singleton.2 hnotStart⟩
        · rw [← List.append_assoc]
          exact hheld.snoc hfunctionLog
        · rw [logged_append, hlog, hlater, List.append_assoc]
    · rw [if_neg hdelaying]
      refine ⟨[event], .pushLog hcaused rfl rfl, ?_⟩
      cases h with
      | off hoff => exact absurd hmode hoff
      | immediate _ hdelaying' hlogs horder =>
        have hstep := horder.step
        rw [hlog] at hstep
        exact .immediate hmode hdelaying' hlogs hstep
      | delayed _ hdelaying' => exact absurd hdelaying' hdelaying
      | startDelayed _ hdelaying' => exact absurd hdelaying' hdelaying

/-- A delayed `PlatformStart` takes its place after the function logs held back so far. -/
theorem processPlatformStart_order {data : PlatformStartData} (hmode : config.logMode = .structured)
    (hevent : event.isStart = true) (htime : data.time = event.nanos)
    (h : LogOrder config past (event :: coming) p.state causes) :
    ∃ new, Emits config new p (processPlatformStart config data p) ∧
      LogOrder config (past ++ [event]) coming (processPlatformStart config data p).state
        (causes ++ new) := by
  have hlog (hon : config.platformLogSet.start = true) : logged config [event] = [event] :=
    logged_start hmode hon hevent
  unfold processPlatformStart
  cases h with
  | off hoff => exact absurd hmode hoff
  | immediate _ hdelaying hlogs horder =>
    by_cases hon : config.platformLogSet.start = true
    · rw [if_pos ⟨hmode, hon, by rw [hdelaying]; exact Bool.false_ne_true⟩]
      have hstep := horder.step
      rw [hlog hon] at hstep
      exact ⟨[event], (startLog_emits (p := p) hmode hon hevent htime).of_right (.none rfl rfl rfl),
        .immediate hmode hdelaying hlogs hstep⟩
    · rw [if_neg (fun h => hon h.2.1)]
      have hstep := horder.step
      rw [logged_start_off hon hevent] at hstep
      exact ⟨[], .none rfl rfl rfl, .immediate hmode hdelaying hlogs hstep⟩
  | delayed _ hdelaying hstart held hheld horder hreport =>
    rw [if_neg (fun h => h.2.2 hdelaying)]
    refine ⟨[], .none rfl rfl rfl, ?_⟩
    rw [List.append_nil]
    by_cases hon : config.platformLogSet.start = true
    · refine .startDelayed hmode hdelaying hon data rfl past event [] rfl hevent
        (fun e he => by cases he) htime causes [] held [] ?_ ?_ rfl (List.append_nil _).symm (.inr rfl)
        hreport
      · rwa [List.append_nil]
      · rw [filter_logged_eq (hstart hon).2, horder]
    · refine .delayed hmode hdelaying (fun h => absurd h hon) held hheld ?_ hreport
      rw [horder, logged_append, logged_start_off hon hevent, List.append_nil]
  | startDelayed _ hdelaying hon data' hdata before start after hpast hevent' hafter htime' first second
      held held' hheld hearlier hlater hcauses hone hreport =>
    rw [if_neg (fun h => h.2.2 hdelaying)]
    refine ⟨[], .none rfl rfl rfl, ?_⟩
    rw [List.append_nil]
    -- the earlier start is forgotten
    refine .startDelayed hmode hdelaying hon data rfl past event [] rfl hevent
      (fun e he => by cases he) htime causes [] (held ++ held') [] ?_ ?_ rfl (List.append_nil _).symm
      (.inr rfl) hreport
    · rwa [List.append_nil]
    · have hdropped : (logged config [start]).filter (fun event => !event.isStart) = [] := by
        rw [logged_start hmode hon hevent']
        exact List.filter_cons_of_neg (by rw [hevent']; exact Bool.false_ne_true)
      rw [hpast, logged_append, logged_cons, List.filter_append, List.filter_append, hdropped,
        filter_logged_eq hafter, hearlier, hlater, hcauses]
      rcases hone with rfl | rfl
      · simp only [List.append_nil, List.nil_append, List.append_assoc]
      · simp only [List.append_nil, List.nil_append, List.append_assoc]

/-- After `stop_delaying_logs` nothing is held back. -/
theorem stopDelayingLogs_released (hmode : config.logMode = .structured)
    (h : LogOrder config past coming p.state causes)
    (hturn : config.platformLogSet.start = true → p.state.delayingLogs = true →
      p.state.startData.isSome = true → StartPlaced config past coming causes p.state) :
    ∃ new, Emits config new p (stopDelayingLogs config p) ∧
      (stopDelayingLogs config p).state.delayingLogs = false ∧
      (stopDelayingLogs config p).state.logs = [] ∧ Released config past coming (causes ++ new) := by
  unfold stopDelayingLogs
  by_cases hdelaying : p.state.delayingLogs = true
  · rw [if_pos ⟨hmode, hdelaying⟩]
    obtain ⟨new, hemits, hreleased⟩ :=
      processDelayedLogs_released hmode hdelaying h fun hon => hturn hon hdelaying
    obtain ⟨l, hstate⟩ := @processDelayedLogs_state _ config p
    refine ⟨new, hemits, ?_, ?_, hreleased⟩
    · rw [hstate]
    · rw [hstate]
  · rw [if_neg (fun h => hdelaying h.2)]
    cases h with
    | off hoff => exact absurd hmode hoff
    | immediate _ hdelaying' hlogs horder =>
      refine ⟨[], .none rfl rfl rfl, hdelaying', hlogs, ?_⟩
      rwa [List.append_nil]
    | delayed _ hdelaying' => exact absurd hdelaying' hdelaying
    | startDelayed _ hdelaying' => exact absurd hdelaying' hdelaying

theorem processRuntimeDone_order {data : PlatformRuntimeDoneData}
    (hmode : config.logMode = .structured) (hevent : event.isRuntimeDone = true)
    (htime : data.time = event.nanos) (h : LogOrder config past (event :: coming) p.state causes)
    (hturn : ReleasesStart config p.state (.telemetry event) →
      StartPlaced config past (event :: coming) causes p.state) :
    ∃ new, Emits config new p (processRuntimeDone config data p) ∧
      LogOrder config (past ++ [event]) coming (processRuntimeDone config data p).state
        (causes ++ new) := by
  obtain ⟨new, hemits, hdelaying, hlogs, hreleased⟩ := stopDelayingLogs_released hmode h
    fun hon hdelaying hdata => hturn ⟨hmode, hon, hdelaying, hdata, hevent⟩
  have hpush : Emits config (logged config [event]) (stopDelayingLogs config p)
        (pushRuntimeDoneLog config data (stopDelayingLogs config p)) ∧
      ∃ l, (pushRuntimeDoneLog config data (stopDelayingLogs config p)).state =
        { (stopDelayingLogs config p).state with lastLogState := l } := by
    unfold pushRuntimeDoneLog
    refine pushLog_if ?_ ?_ (by rw [← htime]; rfl)
    · rw [makePlatformRuntimeDoneLog_source]
      unfold causedLog
      unfold LambdaTelemetry.isRuntimeDone at hevent
      rw [if_pos hmode]
      cases hrecord : event.record with
      | platformRuntimeDone =>
        simp only [hmode, true_and]
        rfl
      | _ =>
        simp only [hrecord] at hevent
        cases hevent
    · rw [← htime]
      exact (makePlatformRuntimeDoneLog_stampedBy _ _ data _ _).timeUnixNano
  obtain ⟨hpushed, l, hstate⟩ := hpush
  obtain ⟨hspans, hbuffer, -⟩ := @emitSpansAfterRuntimeDone_eq
    (setRuntimeDoneData data (pushRuntimeDoneLog config data (stopDelayingLogs config p))) config
  have hrest : Emits config [] (pushRuntimeDoneLog config data (stopDelayingLogs config p))
      (processRuntimeDone config data p) := by
    refine .none ?_ ?_ hbuffer
    · exact congrArg (·.serial) hspans
    · exact congrArg (·.lastLogState) hspans
  refine ⟨new ++ logged config [event], hemits.trans (hpushed.of_right hrest), ?_⟩
  have hfinal : (processRuntimeDone config data p).state =
      { (stopDelayingLogs config p).state with
        lastLogState := l, runtimeDoneData := some data } := by
    refine hspans.trans ?_
    unfold setRuntimeDoneData
    simp only [hstate]
  rw [hfinal, ← List.append_assoc]
  exact .immediate hmode hdelaying hlogs hreleased.step

theorem processReport_order {data : PlatformReportData} (hmode : config.logMode = .structured)
    (hevent : event.isReport = true) (htime : data.time = event.nanos)
    (h : LogOrder config past (event :: coming) p.state causes) :
    ∃ new, Emits config new p (processReport config data p) ∧
      LogOrder config (past ++ [event]) coming (processReport config data p).state
        (causes ++ new) := by
  obtain ⟨l, htaken⟩ := @takeLogs_state _ config p
  have hnotStart : event.isStart = false := by
    unfold LambdaTelemetry.isReport at hevent
    unfold LambdaTelemetry.isStart
    cases hrecord : event.record with
    | platformStart =>
      rw [hrecord] at hevent
      cases hevent
    | _ => rfl
  have hpush : Emits config (logged config [event]) (takeLogs config p)
        (pushReportLogs config data p) ∧
      ∃ l, (pushReportLogs config data p).state =
        { (takeLogs config p).state with lastLogState := l } := by
    unfold pushReportLogs
    rw [if_pos hmode]
    refine pushLog_if ?_ ?_ (by rw [← htime]; rfl)
    · rw [makePlatformReportLog_source]
      unfold causedLog
      unfold LambdaTelemetry.isReport at hevent
      rw [if_pos hmode]
      cases hrecord : event.record with
      | platformReport => rfl
      | _ =>
        simp only [hrecord] at hevent
        cases hevent
    · rw [← htime]
      exact (makePlatformReportLog_stampedBy _ _ data).timeUnixNano
  obtain ⟨hpushed, l', hstate⟩ := hpush
  have hrest : Emits config [] (pushReportLogs config data p) (processReport config data p) ∧
      (processReport config data p).state =
        { (pushReportLogs config data p).state with reportData := some data } := by
    unfold processReport emitSpansAfterReport
    simp only
    split
    · exact ⟨.none rfl rfl rfl, rfl⟩
    · exact ⟨.none rfl rfl rfl, rfl⟩
  have hfinal : (processReport config data p).state =
      { p.state with logs := [], lastLogState := l', reportData := some data } := by
    rw [hrest.2, hstate, htaken]
  rw [hfinal]
  cases h with
  | off hoff => exact absurd hmode hoff
  | immediate _ hdelaying hlogs horder =>
    have hnone : Emits config [] p (takeLogs config p) :=
      takeLogs_emits hmode (by rw [hlogs]; rfl)
    exact ⟨logged config [event], hnone.of_left (hpushed.of_right hrest.1),
      .immediate hmode hdelaying rfl horder.step⟩
  | delayed _ hdelaying hstart held hheld horder hreport =>
    refine ⟨held ++ logged config [event], (takeLogs_emits hmode hheld).trans (hpushed.of_right hrest.1),
      .delayed hmode hdelaying (fun hon => ⟨(hstart hon).1, ?_⟩) [] rfl ?_ (fun h => by cases h)⟩
    · exact List.forall_mem_append.2 ⟨(hstart hon).2, List.forall_mem_singleton.2 hnotStart⟩
    · rw [List.append_nil, ← List.append_assoc, horder, logged_append]
  | startDelayed _ hdelaying hon data' hdata before start after hpast hevent' hafter htime' first second
      held held' hheld hearlier hlater hcauses hone hreport =>
    -- what has been held back has come, and with the report nothing is
    refine ⟨held ++ held' ++ logged config [event],
      (takeLogs_emits hmode hheld).trans (hpushed.of_right hrest.1),
      .startDelayed hmode hdelaying hon data' hdata before start (after ++ [event]) ?_ hevent' ?_ htime'
        (first ++ held) (second ++ held' ++ logged config [event]) [] [] rfl ?_ ?_ ?_ (.inl rfl)
        (fun h => by cases h)⟩
    · rw [hpast, List.append_assoc, List.cons_append]
    · exact List.forall_mem_append.2 ⟨hafter, List.forall_mem_singleton.2 hnotStart⟩
    · rw [List.append_nil, hearlier]
    · rw [List.append_nil, logged_append, hlater]
    · rw [hcauses]
      rcases hone with rfl | rfl
      · simp only [List.append_nil, List.nil_append, List.append_assoc]
      · simp only [List.append_nil, List.nil_append, List.append_assoc]

theorem processRecord_order (h : LogOrder config past (event :: coming) p.state causes)
    (hturn : ReleasesStart config p.state (.telemetry event) →
      StartPlaced config past (event :: coming) causes p.state) :
    ∃ new, Emits config new p (processRecord config event.nanos event.record p) ∧
      LogOrder config (past ++ [event]) coming
        (processRecord config event.nanos event.record p).state (causes ++ new) := by
  by_cases hmode : config.logMode = .structured
  · have hother (q : Processing InvocationProcessingState) (hemits : Emits config [] p q)
        (horder : LogOrder config past (event :: coming) q.state causes)
        (hnone : causedLog config none event = none) :
        ∃ new, Emits config new p q ∧
          LogOrder config (past ++ [event]) coming q.state (causes ++ new) := by
      refine ⟨[], hemits, ?_⟩
      rw [List.append_nil]
      exact horder.skip (logged_eq_nil hnone)
    cases hrecord : event.record with
    | function => exact processFunctionLog_order hmode hrecord h
    | platformStart =>
      refine processPlatformStart_order hmode ?_ rfl h
      unfold LambdaTelemetry.isStart
      rw [hrecord]
    | platformRuntimeDone =>
      refine processRuntimeDone_order hmode ?_ rfl h hturn
      unfold LambdaTelemetry.isRuntimeDone
      rw [hrecord]
    | platformReport =>
      refine processReport_order hmode ?_ rfl h
      unfold LambdaTelemetry.isReport
      rw [hrecord]
    | _ =>
      refine hother _ (.none rfl rfl rfl) (h.congr rfl rfl rfl rfl) ?_
      unfold causedLog
      rw [if_pos hmode, hrecord]
  · refine ⟨[], processRecord_off hmode _ _, ?_⟩
    rw [List.append_nil]
    cases h with
    | off _ hcauses => exact .off hmode hcauses
    | immediate hmode' => exact absurd hmode' hmode
    | delayed hmode' => exact absurd hmode' hmode
    | startDelayed hmode' => exact absurd hmode' hmode

theorem processFunctionSpans_order (spans : List ResourceSpans)
    (h : LogOrder config past coming p.state causes)
    (hturn : ReleasesStart config p.state (.functionSpans spans) →
      StartPlaced config past coming causes p.state) :
    ∃ new, Emits config new p (processFunctionSpans config spans p) ∧
      LogOrder config past coming (processFunctionSpans config spans p).state (causes ++ new) := by
  have hforward (t : InvocationTracingState) (rss : List ResourceSpans) :
      let q := forwardSpans config rss { p with state := { p.state with tracingState := t } }
      Emits config [] p q ∧ q.state = { p.state with tracingState := t } := by
    unfold forwardSpans
    dsimp only
    split
    · refine ⟨.none rfl rfl ?_, rfl⟩
      rw [OutputBuffers.addFunctionResourceSpans_logsBuffer]
    · exact ⟨.none rfl rfl rfl, rfl⟩
  obtain ⟨hemits, hstate⟩ := hforward
    (processFunctionSpansTracing config p.state.tracingState spans).1
    (processFunctionSpansTracing config p.state.tracingState spans).2
  have horder : LogOrder config past coming
      (forwardSpans config (processFunctionSpansTracing config p.state.tracingState spans).2
        { p with state := { p.state with
          tracingState := (processFunctionSpansTracing config p.state.tracingState spans).1 } }).state
      causes := by
    rw [hstate]
    exact h.congr rfl rfl rfl rfl
  unfold processFunctionSpans emitLogsOfEarlySpan
  dsimp only
  split
  next hemit =>
    obtain ⟨new, hreleased, horder⟩ := processDelayedLogs_released hemit.1 hemit.2.1 horder
      fun hon hdata => by
        rw [hstate] at hemit hdata ⊢
        exact hturn ⟨hemit.1, hon, hemit.2.1, hdata, hemit.2.2⟩
    refine ⟨new, hemits.of_left hreleased, ?_⟩
    obtain ⟨l, hfinal⟩ := @processDelayedLogs_state _ config
      (forwardSpans config (processFunctionSpansTracing config p.state.tracingState spans).2
        { p with state := { p.state with
          tracingState := (processFunctionSpansTracing config p.state.tracingState spans).1 } })
    rw [hfinal]
    exact .immediate hemit.1 rfl rfl horder
  next =>
    refine ⟨[], hemits, ?_⟩
    rwa [List.append_nil]

/-! ## A run -/

/-- Where the run lets go of a start log, the start log gets its place. -/
def InputsInTurn (config : TelemetryProcessorConfig) (p : Processing InvocationProcessingState)
    (inputs : List InvocationInput) : Prop :=
  ∀ past input rest q, inputs = past ++ input :: rest → run (inputStep config) p past = some q →
    ReleasesStart config q.state input →
      StartInTurn config (telemetryOf past) (telemetryOf (input :: rest)) q.state

omit [External] in
theorem lastLogStateAfter_last {state : LastLogState} {last : LambdaTelemetry}
    (h : last ∈ causes.getLast?) :
    (lastLogStateAfter state (causes.map (·.nanos))).lastLogTimestamp = last.nanos := by
  obtain ⟨init, rfl⟩ := List.getLast?_eq_some_iff.1 h
  rw [List.map_append, lastLogStateAfter_append]
  change (makeLogTimestamp _ last.nanos).2.lastLogTimestamp = last.nanos
  unfold makeLogTimestamp
  dsimp only
  split
  · next hsame => exact hsame.symm
  · rfl

/-- The timestamp in the state is that of the last log. -/
theorem StartInTurn.placed {q : Processing InvocationProcessingState}
    (h : StartInTurn config past coming q.state) (hemits : Emits config causes p q)
    (horder : LogOrder config past coming q.state causes) (hdelaying : q.state.delayingLogs = true) :
    StartPlaced config past coming causes q.state := by
  obtain ⟨before, start, after, hpast, hevent, hafter, hplace⟩ := h
  refine ⟨before, start, after, hpast, hevent, hafter, hplace.imp id ?_⟩
  rintro ⟨halone, hcoming⟩
  refine ⟨halone, fun last hlast => ?_⟩
  rcases hcoming with hreport | hcoming
  · have hnone : causes = [] := by
      cases horder with
      | off _ hcauses => exact hcauses
      | immediate _ hdelaying' =>
        rw [hdelaying] at hdelaying'
        cases hdelaying'
      | delayed _ _ _ _ _ _ hnone => exact hnone hreport
      | startDelayed _ _ _ _ _ _ _ _ _ _ _ _ _ _ _ _ _ _ _ _ _ hnone => exact hnone hreport
    rw [hnone] at hlast
    cases hlast
  · rwa [hemits.lastLogState, lastLogStateAfter_last hlast] at hcoming

/-- What a run has emitted and holds back after some of its inputs, where every start log that it lets
go of gets its place. -/
theorem run_order {whole inputs rest : List InvocationInput}
    (hinitial : LogOrder config [] (telemetryOf whole) p.state [])
    (hturn : ∀ past input rest q causes, whole = past ++ input :: rest → Emits config causes p q →
      run (inputStep config) p past = some q →
      LogOrder config (telemetryOf past) (telemetryOf (input :: rest)) q.state causes →
      ReleasesStart config q.state input →
        StartPlaced config (telemetryOf past) (telemetryOf (input :: rest)) causes q.state)
    (hwhole : whole = inputs ++ rest) (hrun : run (inputStep config) p inputs = some p') :
    ∃ causes, Emits config causes p p' ∧
      LogOrder config (telemetryOf inputs) (telemetryOf rest) p'.state causes := by
  refine (run_actions (I := fun past q => run (inputStep config) p past = some q ∧
    ∀ rest, whole = past ++ rest → ∃ causes, Emits config causes p q ∧
      LogOrder config (telemetryOf past) (telemetryOf rest) q.state causes) ⟨rfl, ?_⟩ ?_ hrun).2 rest
    hwhole
  · rintro rest rfl
    exact ⟨[], .none rfl rfl rfl, hinitial⟩
  · rintro past q input q' ⟨hpast, ih⟩ hstep
    refine ⟨run_snoc.2 ⟨q, hpast, hstep⟩, fun rest hwhole => ?_⟩
    rw [List.append_assoc, List.singleton_append] at hwhole
    obtain ⟨causes, hemits, horder⟩ := ih (input :: rest) hwhole
    have hturn := hturn past input rest q causes hwhole hemits hpast horder
    rw [telemetryOf_append]
    cases input with
    | telemetry event =>
      obtain ⟨new, hnew, horder⟩ := processRecord_order horder hturn
      rw [← inputStep_telemetry hstep] at hnew horder
      exact ⟨causes ++ new, hemits.trans hnew, horder⟩
    | functionSpans spans =>
      obtain ⟨new, hnew, horder⟩ := processFunctionSpans_order spans horder hturn
      rw [← inputStep_functionSpans hstep] at hnew horder
      refine ⟨causes ++ new, hemits.trans hnew, ?_⟩
      change LogOrder config (telemetryOf past ++ []) (telemetryOf rest) q'.state (causes ++ new)
      rwa [List.append_nil]

/-! ## The timestamps of the logs -/

/-- What is asked of the events of a run: they come in the order of their timestamps, which fit in 64
bits, and there are fewer than a million logs in each millisecond. -/
structure TimedInOrder (config : TelemetryProcessorConfig) (events : List LambdaTelemetry) : Prop where
  sorted : (events.map (·.timestampMillis)).Pairwise (· ≤ ·)
  range : ∀ event ∈ events,
    0 ≤ event.timestampMillis ∧ event.timestampMillis * 1000000 < UInt64.size
  few : ∀ millis, logsInMilli config events millis < 1000000

/-- The logs of the last millisecond of 64 bits still fit. -/
def StampsFit (config : TelemetryProcessorConfig) (events : List LambdaTelemetry) : Prop :=
  ∀ event ∈ events,
    event.timestampMillis * 1000000 + logsInMilli config events event.timestampMillis ≤ UInt64.size

instance (config : TelemetryProcessorConfig) (events : List LambdaTelemetry) :
    Decidable (StampsFit config events) :=
  inferInstanceAs (Decidable (∀ event ∈ events, _ ≤ _))

/-- Events that cause a log each, in the order of a run. -/
structure CausesIn (config : TelemetryProcessorConfig) (all ordered : List LambdaTelemetry) :
    Prop where
  sublist : ordered.Sublist all
  caused : ∀ event ∈ ordered, (causedLog config none event).isSome = true

namespace CausesIn

variable {ordered : List LambdaTelemetry}

theorem count_le (h : CausesIn config all ordered) (millis : Int) :
    (ordered.map (·.nanos)).count (millis * 1000000) ≤ logsInMilli config all millis := by
  unfold logsInMilli List.count
  rw [List.countP_map]
  refine Nat.le_trans ?_ h.sublist.countP_le
  apply List.countP_mono_left
  intro event hevent hnanos
  simp only [Function.comp_apply, beq_iff_eq] at hnanos
  refine decide_eq_true ⟨?_, h.caused event hevent⟩
  unfold LambdaTelemetry.nanos at hnanos
  omega

theorem sorted (h : CausesIn config all ordered) (htimed : TimedInOrder config all) :
    ordered.Pairwise fun a b => a.timestampMillis ≤ b.timestampMillis :=
  (List.pairwise_map.1 htimed.sorted).sublist h.sublist

end CausesIn

theorem Arrived.causesIn {ordered : List LambdaTelemetry} (h : Arrived config all ordered) :
    CausesIn config all ordered where
  sublist := h.sublist.trans List.filter_sublist
  caused := fun _ hevent => (List.mem_filter.1 (h.sublist.subset hevent)).2

/-- The load of a time stays below a million. -/
theorem load_le {ordered : List LambdaTelemetry} (h : CausesIn config all ordered)
    (hperm : causes.Perm ordered) (htimed : TimedInOrder config all) (hfits : StampsFit config all)
    {t : Int} (ht : t ∈ causes.map (·.nanos)) :
    Stamps.load 0 0 (causes.map (·.nanos)) t ≤ 1000000 ∧
      t + Stamps.load 0 0 (causes.map (·.nanos)) t ≤ UInt64.size := by
  obtain ⟨event, hevent, rfl⟩ := List.mem_map.1 ht
  have hall : event ∈ all := h.sublist.subset (hperm.subset hevent)
  have hcount : (causes.map (·.nanos)).count event.nanos ≤
      logsInMilli config all event.timestampMillis := by
    rw [(hperm.map _).count_eq]
    exact h.count_le event.timestampMillis
  have hfew := htimed.few event.timestampMillis
  have hfit := hfits event hall
  have hsize : UInt64.size = 18446744073709551616 := rfl
  unfold Stamps.load
  by_cases hzero : event.nanos = 0
  · rw [if_pos hzero, hzero]
    rw [hzero] at hcount
    omega
  · rw [if_neg hzero]
    unfold LambdaTelemetry.nanos at hcount ⊢
    omega

/-- The stamps of the logs, and the millisecond each of them is in. -/
theorem stamps_of_emits {ordered : List LambdaTelemetry} {records : List LogRecord}
    {invocation : Option Nat} (h : CausesIn config all ordered) (hperm : causes.Perm ordered)
    (htimed : TimedInOrder config all) (hfits : StampsFit config all)
    (hsources : List.Forall₂ (fun event record => causedLog config invocation event = some record.source)
      causes records)
    (htimes : records.map (·.timeUnixNano) = logTimestamps {} (causes.map (·.nanos))) :
    (records.map fun record => (record.timeUnixNano : Int)) =
        Stamps.stamps 0 0 (causes.map (·.nanos)) ∧
      ∀ x ∈ causes.zip records, x.2.CausedBy config invocation x.1 := by
  have hstamps : (records.map fun record => (record.timeUnixNano : Int)) =
      Stamps.stamps 0 0 (causes.map (·.nanos)) := by
    have hrange (t : Int) (ht : t ∈ causes.map (·.nanos)) : 0 ≤ t ∧ t < UInt64.size := by
      obtain ⟨event, hevent, rfl⟩ := List.mem_map.1 ht
      have := htimed.range event (h.sublist.subset (hperm.subset hevent))
      unfold LambdaTelemetry.nanos
      omega
    rw [← @logTimestamps_eq {} _ hrange fun t ht => load_le h hperm htimed hfits ht, ← htimes,
      List.map_map]
    rfl
  refine ⟨hstamps, fun x hx => ?_⟩
  have hsource := (List.forall₂_iff_zip.1 hsources).2 hx
  have hbounds := Stamps.stamps_bounds 0 0 (causes.map (·.nanos))
  rw [← hstamps, List.forall₂_map_left_iff, List.forall₂_map_right_iff] at hbounds
  have hbound := (List.forall₂_iff_zip.1 hbounds).2 hx
  have hload := (load_le h hperm htimed hfits
    (List.mem_map_of_mem (List.of_mem_zip hx).1)).1
  unfold LambdaTelemetry.nanos at hbound hload
  refine ⟨hsource, hbound.1, ?_⟩
  omega

omit [External] in
/-- Times of different milliseconds are a million apart. -/
theorem gap_of_load_le {times : List LambdaTelemetry} {last : Int} {sub : Nat}
    (hload : ∀ t ∈ times.map (·.nanos), Stamps.load last sub (times.map (·.nanos)) t ≤ 1000000) :
    ∀ t ∈ times.map (·.nanos), ∀ u ∈ times.map (·.nanos), t < u →
      t + Stamps.load last sub (times.map (·.nanos)) t ≤ u := by
  intro t ht u hu hlt
  have hle := hload t ht
  obtain ⟨a, -, rfl⟩ := List.mem_map.1 ht
  obtain ⟨b, -, rfl⟩ := List.mem_map.1 hu
  unfold LambdaTelemetry.nanos at hlt hle ⊢
  omega

omit [External] in
theorem nanos_sorted {events : List LambdaTelemetry}
    (h : events.Pairwise fun a b => a.timestampMillis ≤ b.timestampMillis) :
    (events.map (·.nanos)).Pairwise fun a b : Int => a ≤ b := by
  refine List.pairwise_map.2 (h.imp fun hab => ?_)
  unfold LambdaTelemetry.nanos
  omega

/-- Logs that have been stamped in the order of their events. -/
theorem sortInto_of_inOrder {records : List LogRecord} {invocation : Option Nat}
    (h : CausesIn config all causes) (htimed : TimedInOrder config all) (hfits : StampsFit config all)
    (hsources : List.Forall₂ (fun event record => causedLog config invocation event = some record.source)
      causes records)
    (htimes : records.map (·.timeUnixNano) = logTimestamps {} (causes.map (·.nanos))) :
    SortInto config invocation causes records := by
  obtain ⟨hstamps, hcaused⟩ := stamps_of_emits h (List.Perm.refl _) htimed hfits hsources htimes
  have hlength := hsources.length_eq
  have hincreasing := @Stamps.stamps_pairwise 0 0 _ (nanos_sorted (h.sorted htimed))
    (gap_of_load_le fun t ht => (load_le h (List.Perm.refl _) htimed hfits ht).1)
  rw [← hstamps, List.pairwise_map] at hincreasing
  refine ⟨causes.zip records, ?_, ?_, ?_, hcaused⟩
  · rw [List.map_snd_zip (Nat.le_of_eq hlength.symm)]
  · change ((causes.zip records).map ((fun record => record.timeUnixNano) ∘ Prod.snd)).Pairwise _
    rw [← List.map_map, List.map_snd_zip (Nat.le_of_eq hlength.symm), List.pairwise_map]
    exact hincreasing.imp fun hlt => Int.ofNat_lt.1 hlt
  · rw [List.map_fst_zip (Nat.le_of_eq hlength)]

/-- The other logs are in other milliseconds. -/
theorem millis_ne_of_alone {before after : List LambdaTelemetry} {start : LambdaTelemetry}
    (h : CausesIn config all (before ++ start :: after)) (halone : AloneInMilli config all start) :
    ∀ event ∈ before ++ after, event.timestampMillis ≠ start.timestampMillis := by
  intro event hevent hsame
  have hlogs (e : LambdaTelemetry) (he : e ∈ before ++ start :: after)
      (hmillis : e.timestampMillis = start.timestampMillis) :
      isLogOfMilli config start.timestampMillis e = true :=
    decide_eq_true ⟨hmillis, h.caused e he⟩
  have hcount : (before ++ start :: after).countP (isLogOfMilli config start.timestampMillis) ≤ 1 :=
    Nat.le_trans h.sublist.countP_le halone
  have hstart := hlogs start (List.mem_append_right _ List.mem_cons_self) rfl
  rw [List.countP_append, List.countP_cons, if_pos hstart] at hcount
  rcases List.mem_append.1 hevent with hbefore | hafter
  · have := List.countP_pos_iff.2 ⟨event, hbefore, hlogs event (List.mem_append_left _ hbefore) hsame⟩
    omega
  · have := List.countP_pos_iff.2 ⟨event, hafter,
      hlogs event (List.mem_append_right _ (List.mem_cons_of_mem _ hafter)) hsame⟩
    omega

omit [External] in
/-- An element between two parts of an ordered list. -/
theorem pairwise_insert {α : Type} {R : α → α → Prop} {a b : List α} {x : α}
    (h : (a ++ b).Pairwise R) (ha : ∀ y ∈ a, R y x) (hb : ∀ y ∈ b, R x y) :
    (a ++ x :: b).Pairwise R := by
  obtain ⟨hfirst, hsecond, hcross⟩ := List.pairwise_append.1 h
  refine List.pairwise_append.2 ⟨hfirst, List.pairwise_cons.2 ⟨hb, hsecond⟩, fun y hy z hz => ?_⟩
  rcases List.mem_cons.1 hz with rfl | hz
  · exact ha y hy
  · exact hcross y hy z hz

/-- A start log that has been stamped out of its place, but is the only log of its millisecond and does
not come between two logs of another one. -/
theorem sortInto_of_startApart {records : List LogRecord} {invocation : Option Nat}
    {first rest before after : List LambdaTelemetry} {start : LambdaTelemetry}
    (h : CausesIn config all (before ++ start :: after)) (hothers : before ++ after = first ++ rest)
    (halone : AloneInMilli config all start)
    (happart : ∀ last ∈ first.getLast?, ∀ event ∈ rest, event.nanos ≠ last.nanos)
    (htimed : TimedInOrder config all) (hfits : StampsFit config all)
    (hsources : List.Forall₂ (fun event record => causedLog config invocation event = some record.source)
      (first ++ start :: rest) records)
    (htimes : records.map (·.timeUnixNano) =
      logTimestamps {} ((first ++ start :: rest).map (·.nanos))) :
    SortInto config invocation (before ++ start :: after) records := by
  have hperm : (first ++ start :: rest).Perm (before ++ start :: after) := by
    refine List.perm_middle.trans (List.Perm.trans ?_ List.perm_middle.symm)
    rw [hothers]
  obtain ⟨hstamps, hcaused⟩ := stamps_of_emits h hperm htimed hfits hsources htimes
  have hmillis := millis_ne_of_alone h halone
  have hsorted := h.sorted htimed
  have hothersSorted : (first ++ rest).Pairwise fun a b => a.timestampMillis ≤ b.timestampMillis := by
    rw [← hothers]
    exact hsorted.sublist ((List.sublist_cons_self start after).append_left before)
  have hgap := gap_of_load_le fun t ht => (load_le h hperm htimed hfits ht).1
  -- the stamps of the others are increasing
  obtain ⟨firstStamps, stamp, restStamps, heq, hfirst, hrest, hincreasing⟩ :
      ∃ sa s sb, Stamps.stamps 0 0 ((first ++ start :: rest).map (·.nanos)) = sa ++ s :: sb ∧
        sa.length = (first.map (·.nanos)).length ∧ sb.length = (rest.map (·.nanos)).length ∧
        (sa ++ sb).Pairwise (· < ·) := by
    have hmem (t : Int) (ht : t ∈ first.map (·.nanos) ++ rest.map (·.nanos)) :
        t ∈ (first ++ start :: rest).map (·.nanos) := by
      rw [← List.map_append] at ht
      exact List.map_subset _ ((List.sublist_cons_self start rest).append_left first).subset ht
    rw [List.map_append, List.map_cons] at hmem hgap ⊢
    refine Stamps.stamps_pairwise_around ?_ ?_ fun u hu v hv => hgap u (hmem u hu) v (hmem v hv)
    · rw [← List.map_append]
      exact nanos_sorted hothersSorted
    · intro u hu v hv
      rw [List.getLast?_map] at hu
      obtain ⟨last, hlast, rfl⟩ := Option.mem_map.1 hu
      obtain ⟨event, hevent, rfl⟩ := List.mem_map.1 hv
      exact happart last hlast event hevent
  rw [heq] at hstamps
  obtain ⟨firstRecords, more, rfl, rfl, hmore⟩ := List.map_eq_append_iff.1 hstamps
  obtain ⟨record, restRecords, rfl, -, rfl⟩ := List.map_eq_cons_iff.1 hmore
  rw [List.length_map, List.length_map] at hfirst hrest
  rw [← List.map_append, List.pairwise_map] at hincreasing
  -- the others with their events, around the start
  rw [List.zip_append hfirst.symm, List.zip_cons_cons] at hcaused
  have hevents : (first.zip firstRecords ++ rest.zip restRecords).map Prod.fst = before ++ after := by
    rw [List.map_append, List.map_fst_zip (Nat.le_of_eq hfirst.symm),
      List.map_fst_zip (Nat.le_of_eq hrest.symm), hothers]
  have hrecords : (first.zip firstRecords ++ rest.zip restRecords).map Prod.snd =
      firstRecords ++ restRecords := by
    rw [List.map_append, List.map_snd_zip (Nat.le_of_eq hfirst), List.map_snd_zip (Nat.le_of_eq hrest)]
  have hcausedOthers : ∀ x ∈ first.zip firstRecords ++ rest.zip restRecords,
      x.2.CausedBy config invocation x.1 := fun x hx =>
    hcaused x (((List.sublist_cons_self _ _).append_left _).subset hx)
  have hstart : record.CausedBy config invocation start :=
    hcaused (start, record) (List.mem_append_right _ List.mem_cons_self)
  obtain ⟨earlier, later, hpairs, rfl, rfl⟩ := List.map_eq_append_iff.1 hevents
  rw [hpairs] at hrecords hcausedOthers
  refine ⟨earlier ++ (start, record) :: later, ?_, ?_, ?_, ?_⟩
  · rw [List.map_append, List.map_cons]
    refine List.perm_middle.trans (List.Perm.trans ?_ List.perm_middle.symm)
    rw [← List.map_append, hrecords]
  · refine List.pairwise_map.2 (pairwise_insert ?_ (fun x hx => ?_) (fun x hx => ?_))
    · rw [← hrecords, List.pairwise_map] at hincreasing
      exact hincreasing.imp fun hlt => Int.ofNat_lt.1 hlt
    · have hmem : x.1 ∈ earlier.map Prod.fst := List.mem_map_of_mem hx
      have hne := hmillis x.1 (List.mem_append_left _ hmem)
      have hle := (List.pairwise_append.1 hsorted).2.2 x.1 hmem start List.mem_cons_self
      have hbound := (hcausedOthers x (List.mem_append_left _ hx)).2
      have hbound' := hstart.2
      change x.2.timeUnixNano < record.timeUnixNano
      omega
    · have hmem : x.1 ∈ later.map Prod.fst := List.mem_map_of_mem hx
      have hne := hmillis x.1 (List.mem_append_right _ hmem)
      have hle := (List.pairwise_cons.1 (List.pairwise_append.1 hsorted).2.1).1 x.1 hmem
      have hbound := (hcausedOthers x (List.mem_append_right _ hx)).2
      have hbound' := hstart.2
      change record.timeUnixNano < x.2.timeUnixNano
      omega
  · rw [List.map_append, List.map_cons]
  · intro x hx
    rcases List.mem_append.1 hx with hx | hx
    · exact hcausedOthers x (List.mem_append_left _ hx)
    · rcases List.mem_cons.1 hx with rfl | hx
      · exact hstart
      · exact hcausedOthers x (List.mem_append_right _ hx)

theorem Released.sortInto {records : List LogRecord} {invocation : Option Nat}
    (h : Released config all [] causes) (htimed : TimedInOrder config all)
    (hfits : StampsFit config all)
    (hsources : List.Forall₂ (fun event record => causedLog config invocation event = some record.source)
      causes records)
    (htimes : records.map (·.timeUnixNano) = logTimestamps {} (causes.map (·.nanos))) :
    ∃ ordered, Arrived config all ordered ∧ SortInto config invocation ordered records := by
  cases h with
  | inOrder harrived =>
    exact ⟨causes, harrived, sortInto_of_inOrder harrived.causesIn htimed hfits hsources htimes⟩
  | startApart first start rest before after hcauses harrived hothers halone happart =>
    rw [List.append_nil] at halone
    change ∀ last ∈ first.getLast?, ∀ event ∈ rest ++ [], event.nanos ≠ last.nanos at happart
    rw [List.append_nil] at happart
    subst hcauses
    exact ⟨_, harrived, sortInto_of_startApart harrived.causesIn hothers halone happart htimed hfits
      hsources htimes⟩

theorem SortInto.sortsByArrival {records : List LogRecord} {invocation : Option Nat}
    {ordered : List LambdaTelemetry} (h : SortInto config invocation ordered records)
    (hsub : ordered.Sublist all) : SortsByArrival config invocation all records := by
  obtain ⟨sorted, hperm, hincreasing, rfl, hcaused⟩ := h
  exact ⟨sorted, hperm, hincreasing, hsub, hcaused⟩

theorem SortInto.length {records : List LogRecord} {invocation : Option Nat}
    (h : SortInto config invocation all records) : records.length = all.length := by
  obtain ⟨sorted, hperm, -, rfl, -⟩ := h
  rw [← hperm.length_eq, List.length_map, List.length_map]

theorem SortsByArrival.nodup {records : List LogRecord} {invocation : Option Nat}
    (h : SortsByArrival config invocation all records) : (records.map (·.timeUnixNano)).Nodup := by
  obtain ⟨sorted, hperm, hincreasing, -, -⟩ := h
  have hnodup : (sorted.map fun x => x.2.timeUnixNano).Nodup :=
    hincreasing.imp fun hlt => Nat.ne_of_lt hlt
  have hmap : sorted.map (fun x => x.2.timeUnixNano) =
      (sorted.map Prod.snd).map (·.timeUnixNano) := (List.map_map).symm
  rw [hmap] at hnodup
  exact (hperm.map _).nodup_iff.1 hnodup

theorem logOrder_of_isFresh (h : IsFresh config p.state) : LogOrder config [] all p.state [] := by
  obtain ⟨serial, functionContext, invocationContext, rng, h⟩ := h
  by_cases hmode : config.logMode = .structured
  · by_cases htracing : config.tracingMode = .otelInstrumentation
    · have hdelaying : p.state.delayingLogs = true := by
        rw [h]
        exact decide_eq_true htracing
      refine .delayed hmode hdelaying (fun _ => ⟨?_, fun event hevent => by cases hevent⟩) [] ?_ rfl
        (fun _ => rfl)
      · rw [h]
        rfl
      · rw [h]
        rfl
    · have hdelaying : p.state.delayingLogs = false := by
        rw [h]
        exact decide_eq_false htracing
      exact .immediate hmode hdelaying (by rw [h]; rfl)
        (.inOrder ⟨List.Sublist.refl _, fun _ => rfl⟩)
  · exact .off hmode rfl

/-- What has been emitted when the run is over. -/
theorem LogOrder.emitted {state : InvocationProcessingState}
    (h : LogOrder config all [] state causes) {records : List LogRecord} {invocation : Option Nat}
    (htimed : TimedInOrder config all) (hfits : StampsFit config all)
    (hsources : List.Forall₂ (fun event record => causedLog config invocation event = some record.source)
      causes records)
    (htimes : records.map (·.timeUnixNano) = logTimestamps {} (causes.map (·.nanos))) :
    ∃ ordered, ordered.Sublist (logged config all) ∧ SortInto config invocation ordered records ∧
      ((config.logMode = .structured → state.delayingLogs = false) →
        all.countP LambdaTelemetry.isStart ≤ 1 → ordered = logged config all) := by
  have inOrder (hsub : causes.Sublist (logged config all)) : SortInto config invocation causes records :=
    sortInto_of_inOrder ⟨hsub.trans List.filter_sublist,
      fun event hevent => (List.mem_filter.1 (hsub.subset hevent)).2⟩ htimed hfits hsources htimes
  have absurdDelay {P : Prop} (hmode : config.logMode = .structured)
      (hdelaying : state.delayingLogs = true)
      (hended : config.logMode = .structured → state.delayingLogs = false) : P := by
    rw [hended hmode] at hdelaying
    cases hdelaying
  cases h with
  | off hmode hcauses =>
    have hnone := logged_eq_nil_of_off hmode all
    refine ⟨causes, ?_, inOrder ?_, fun _ _ => ?_⟩
    · rw [hcauses, hnone]
    · rw [hcauses, hnone]
    · rw [hcauses, hnone]
  | immediate _ _ _ horder =>
    obtain ⟨ordered, harrived, hsorts⟩ := horder.sortInto htimed hfits hsources htimes
    exact ⟨ordered, harrived.sublist, hsorts, fun _ => harrived.complete⟩
  | delayed hmode hdelaying _ held _ horder _ =>
    have hsub : causes.Sublist (logged config all) := by
      rw [← horder]
      exact List.sublist_append_left _ _
    exact ⟨causes, hsub, inOrder hsub, fun hended => absurdDelay hmode hdelaying hended⟩
  | startDelayed hmode hdelaying _ _ _ before start after hpast _ _ _ first second held held' _ hearlier
      hlater hcauses _ _ =>
    have hsub : causes.Sublist (logged config all) := by
      have hfirst : first.Sublist (logged config before) := by
        refine List.Sublist.trans ?_ (List.filter_sublist (p := fun event => !event.isStart))
        rw [hearlier]
        exact List.sublist_append_left first held
      have hsecond : second.Sublist (logged config after) :=
        hlater ▸ List.sublist_append_left second held'
      rw [hcauses, hpast, logged_append, logged_cons]
      exact hfirst.append (hsecond.trans (List.sublist_append_right _ _))
    exact ⟨causes, hsub, inOrder hsub, fun hended => absurdDelay hmode hdelaying hended⟩

/-- What a run that starts fresh adds to the logs. With at most one start no log is missing once the logs
are no longer delayed. -/
theorem run_sortInto {inputs : List InvocationInput} (hfresh : IsFresh config p.state)
    (htimed : TimedInOrder config (telemetryOf inputs))
    (hfits : StampsFit config (telemetryOf inputs))
    (hturn : ∀ past input rest q causes, inputs = past ++ input :: rest → Emits config causes p q →
      run (inputStep config) p past = some q →
      LogOrder config (telemetryOf past) (telemetryOf (input :: rest)) q.state causes →
      ReleasesStart config q.state input →
        StartPlaced config (telemetryOf past) (telemetryOf (input :: rest)) causes q.state)
    (hrun : run (inputStep config) p inputs = some p') :
    ∃ records ordered, p'.outputBuffers.logsBuffer = p.outputBuffers.logsBuffer ++ records ∧
      ordered.Sublist (logged config (telemetryOf inputs)) ∧
      SortInto config (some p.state.serial) ordered records ∧
      ((config.logMode = .structured → p'.state.delayingLogs = false) →
        (telemetryOf inputs).countP LambdaTelemetry.isStart ≤ 1 →
          ordered = logged config (telemetryOf inputs)) := by
  obtain ⟨causes, hemits, horder⟩ :=
    run_order (logOrder_of_isFresh hfresh) hturn (List.append_nil inputs).symm hrun
  obtain ⟨records, hlogs, hsources, htimes⟩ := hemits.logs
  have hlast : p.state.lastLogState = {} := by
    obtain ⟨serial, functionContext, invocationContext, rng, h⟩ := hfresh
    rw [h]
    rfl
  rw [hlast] at htimes
  obtain ⟨ordered, hsub, hsorts, hcomplete⟩ := horder.emitted htimed hfits hsources htimes
  exact ⟨records, ordered, hlogs, hsub, hsorts, hcomplete⟩

/-- Where every start log that is held back gets its place, the timestamps of an invocation's logs are
all different, and sorting by them gives the order in which the events came. -/
theorem log_order_kept {inputs : List InvocationInput} (hfresh : IsFresh config p.state)
    (htimed : TimedInOrder config (telemetryOf inputs))
    (hfits : StampsFit config (telemetryOf inputs)) (hturn : InputsInTurn config p inputs)
    (hrun : run (inputStep config) p inputs = some p') :
    ∃ records, p'.outputBuffers.logsBuffer = p.outputBuffers.logsBuffer ++ records ∧
      (records.map (·.timeUnixNano)).Nodup ∧
      SortsByArrival config (some p.state.serial) (telemetryOf inputs) records := by
  obtain ⟨records, ordered, hlogs, hsub, hsorts, -⟩ := run_sortInto hfresh htimed hfits
    (fun past input rest q causes hinputs hemits hpast horder hreleases =>
      (hturn past input rest q hinputs hpast hreleases).placed hemits horder hreleases.2.2.1) hrun
  have hsorts := hsorts.sortsByArrival (hsub.trans List.filter_sublist)
  exact ⟨records, hlogs, hsorts.nodup, hsorts⟩

end

/-! ## A start log among the logs of its millisecond -/

/-- A log of the init phase, and one right after the start. -/
def clashingInputs : List InvocationInput :=
  [.telemetry (sampleLog 5 "a"), .telemetry (sampleStart 6 "r"), .telemetry (sampleLog 6 "b"),
    .telemetry (sampleRuntimeDone 7 "r")]

theorem timedInOrder_clashingInputs :
    @TimedInOrder sampleExternal (sampleProcessorConfig .otelInstrumentation)
      (telemetryOf clashingInputs) := by
  apply @TimedInOrder.mk sampleExternal _ _ (by decide) (by decide)
  intro millis
  refine Nat.lt_of_le_of_lt List.countP_le_length ?_
  decide

/-- The start log and the log after it get the same timestamp. -/
theorem delayed_start_log_clashes :
    @IsFresh sampleExternal (sampleProcessorConfig .otelInstrumentation)
        (freshProcessing .otelInstrumentation).state ∧
      @TimedInOrder sampleExternal (sampleProcessorConfig .otelInstrumentation)
        (telemetryOf clashingInputs) ∧
      ∃ p', run (@inputStep sampleExternal (sampleProcessorConfig .otelInstrumentation))
          (freshProcessing .otelInstrumentation) clashingInputs = some p' ∧
        ¬ ∃ records, p'.outputBuffers.logsBuffer = [] ++ records ∧
          (records.map (·.timeUnixNano)).Nodup ∧
          @SortsByArrival sampleExternal (sampleProcessorConfig .otelInstrumentation) (some 0)
            (telemetryOf clashingInputs) records := by
  refine ⟨isFresh_freshProcessing _, timedInOrder_clashingInputs, _, rfl, ?_⟩
  rintro ⟨records, hlogs, hnodup, -⟩
  rw [List.nil_append] at hlogs
  rw [← hlogs] at hnodup
  revert hnodup
  decide +kernel

/-- A log of the init phase, none in the millisecond of the start, and a report while the logs are still
delayed. -/
def separateInputs : List InvocationInput :=
  [.telemetry (sampleLog 5 "a"), .telemetry (sampleStart 6 "r"), .telemetry (sampleLog 7 "b"),
    .telemetry (sampleReport 8 "q"), .telemetry (sampleLog 9 "c"), .telemetry (sampleRuntimeDone 9 "r")]

theorem inputsInTurn_separateInputs :
    @InputsInTurn sampleExternal (sampleProcessorConfig .otelInstrumentation)
      (freshProcessing .otelInstrumentation) separateInputs := by
  intro past input rest q hinputs hrun hreleases
  -- only the end of the runtime lets go of the start log
  have hdone : (input.event?.any LambdaTelemetry.isRuntimeDone) = true := by
    have hmem : input ∈ separateInputs := by
      rw [hinputs]
      exact List.mem_append_right _ List.mem_cons_self
    cases input with
    | telemetry event => exact hreleases.2.2.2.2
    | functionSpans spans =>
      simp only [separateInputs, List.mem_cons, List.not_mem_nil, or_false, reduceCtorEq] at hmem
  obtain ⟨rfl, rfl, rfl⟩ := List.append_cons_inj_of_unique
    (p := fun input : InvocationInput => input.event?.any LambdaTelemetry.isRuntimeDone)
    (c := separateInputs.take 5) (y := .telemetry (sampleRuntimeDone 9 "r")) (d := []) (by decide)
    (by decide) hdone hinputs.symm
  cases hrun
  refine ⟨[sampleLog 5 "a"], sampleStart 6 "r", [sampleLog 7 "b", sampleReport 8 "q", sampleLog 9 "c"],
    rfl, rfl, by decide, .inr ⟨by decide, .inr ⟨?_, ?_⟩⟩⟩
  · decide +kernel
  · decide +kernel

/-- Six logs, of which the start log is the fourth one that is stamped. -/
theorem log_order_kept_separate :
    ∃ (p' : Processing InvocationProcessingState) (records : List LogRecord),
      run (@inputStep sampleExternal (sampleProcessorConfig .otelInstrumentation))
        (freshProcessing .otelInstrumentation) separateInputs = some p' ∧
      p'.outputBuffers.logsBuffer = [] ++ records ∧ records.length = 6 ∧
      (records.map (·.timeUnixNano)).Nodup ∧
      @SortsByArrival sampleExternal (sampleProcessorConfig .otelInstrumentation) (some 0)
        (telemetryOf separateInputs) records := by
  have htimed : @TimedInOrder sampleExternal (sampleProcessorConfig .otelInstrumentation)
      (telemetryOf separateInputs) := by
    apply @TimedInOrder.mk sampleExternal _ _ (by decide) (by decide)
    intro millis
    refine Nat.lt_of_le_of_lt List.countP_le_length ?_
    decide
  obtain ⟨records, hlogs, hnodup, hsorts⟩ :=
    @log_order_kept sampleExternal (sampleProcessorConfig .otelInstrumentation)
      (freshProcessing .otelInstrumentation) _ separateInputs (isFresh_freshProcessing _) htimed
      (by decide) inputsInTurn_separateInputs rfl
  refine ⟨_, records, rfl, hlogs, ?_, hnodup, hsorts⟩
  have hlength := congrArg List.length hlogs
  rw [List.length_append] at hlength
  change _ = 0 + records.length at hlength
  rw [Nat.zero_add] at hlength
  rw [← hlength]
  decide +kernel

end TelemetryExporter
