import TelemetryExporter.Lib.Checks
import TelemetryExporter.Model.AppConfig

/-!
# The defects of a configuration

What can be wrong with the environment, said without the order in which `AppConfig::load` looks at
it. It fails exactly if something is wrong, and the error that it reports is something that is wrong.
-/

namespace TelemetryExporter

open Check

/-! ## What the environment says -/

/-- The variable is set, under either prefix. -/
def IsSet (env : Env) (key : String) : Prop := (getEnvVarWithPrefix env key).isSome = true

/-- The variable is set to the boolean. -/
def SetTo (env : Env) (key : String) (b : Bool) : Prop :=
  ∃ s, getEnvVarWithPrefix env key = some s ∧ parseBool s = some b

/-- The variable is set to a name of the value. -/
def NamedBy {A : Type} (env : Env) (key : String) (names : List (List String × A)) (a : A) : Prop :=
  ∃ s, getStringOption env key = some s ∧ lookupName names (lowercase (trim s)) = some a

/-- Logs are exported. -/
def LogsEnabled (env : Env) : Prop := ¬ NamedBy env "LOG_MODE" LogMode.names .disabled

/-- Traces are exported. -/
def TracesEnabled (env : Env) : Prop :=
  ¬ SetTo env "LOG_ONLY" true ∧ ¬ NamedBy env "TRACING_MODE" TracingMode.names .disabled

/-- The platform metrics are exported. -/
def PlatformMetricsEnabled (env : Env) : Prop :=
  ¬ SetTo env "LOG_ONLY" true ∧ ¬ SetTo env "METRICS_ENABLED" false ∧
    ¬ NamedBy env "METRICS_MODE" PlatformMetricsMode.names .disabled

/-- Metrics are exported: those of the platform, or those of the function, which `LOG_ONLY` leaves as
they are. -/
def MetricsEnabled (env : Env) : Prop :=
  PlatformMetricsEnabled env ∨ ¬ NamedBy env "OTEL_METRICS_MODE" OtelMetricsMode.names .disabled

/-- The pillars, each with the condition under which it is exported. -/
def pillars (env : Env) : List (String × Prop) :=
  [("LOGS", LogsEnabled env), ("TRACES", TracesEnabled env), ("METRICS", MetricsEnabled env)]

/-- The variables of `get_bool_option`. -/
def booleanVariables : List String :=
  ["LOG_ONLY", "METRICS_ENABLED", "OTEL_ALPN_ENABLED", "COMBINED_TELEMETRY_ENABLED",
    "OTLP_SERVER_ENABLED", "TAGS_ENABLED", "LOGS_METADATA_ENABLED", "LOG_METADATA_ENABLED",
    "LOGS_METADATA_INCLUDE_TRACE_REF", "LOGS_METADATA_INCLUDE_EXECUTION",
    "LOGS_METADATA_INCLUDE_INVOCATION_ID", "PLATFORM_LOGS_INCLUDE_REQUEST_ID",
    "PLATFORM_LOGS_HIDE_DEFAULT_VALUES"]

/-- The variables of `get_u64_option` and `get_usize_option`. -/
def naturalVariables : List String :=
  ["AWS_TELEMETRY_INTERVAL_MS", "REPORTING_DELAY_MS", "MAX_SHUTDOWN_FLUSH_DELAY_MS",
    "SPAN_SENDING_THRESHOLD", "MESSAGE_SIZE_LIMIT"]

/-- A variable whose value is one of several names. -/
structure ModeVariable where
  key : String
  names : List String
  error : String → ConfigError

/-- The variables of modes. -/
def modeVariables : List ModeVariable :=
  [⟨"LOG_MODE", LogMode.names.flatMap Prod.fst, .invalidLogMode⟩,
   ⟨"TRACING_MODE", TracingMode.names.flatMap Prod.fst, .invalidTracingMode⟩,
   ⟨"METRICS_MODE", PlatformMetricsMode.names.flatMap Prod.fst, .invalidMetricsMode⟩,
   ⟨"OTEL_METRICS_MODE", OtelMetricsMode.names.flatMap Prod.fst, .invalidOtelMetricsMode⟩,
   ⟨"TRACE_SAMPLING_MODE", TraceSamplingMode.names.flatMap Prod.fst, .invalidTraceSamplingMode⟩]

/-- The tokens of `PlatformEventLogSet`. -/
def platformEventLogNames : List String := ["start", "1", "runtime_done", "2", "report", "3"]

/-- The tokens of `BuiltInAttributeSet`; an empty one is ignored. -/
def builtInAttributeNames : List String :=
  ["", "service_name", "1", "cloud_provider", "2", "cloud_account_id", "3", "cloud_region", "4",
    "faas_name", "5", "faas_id", "6", "faas_instance_cx_id", "7"]

/-- The built-in attributes listed for the pillar. -/
def listedAttributes (env : Env) (pillar : String) : Option String :=
  (getStringOption env (pillar ++ "_RESOURCE_BUILT_IN_ATTRIBUTES")).or
    (getStringOption env "RESOURCE_BUILT_IN_ATTRIBUTES")

/-- A token of `BuiltInAttributeSet`, as it is compared. -/
def attributeToken (token : String) : String :=
  (lowercase (trim token)).map fun c => if c = '.' then '_' else c

/-- `DOMAIN` is the only target that is not for one pillar. -/
def DomainOnly (env : Env) : Prop :=
  ¬ IsSet env "FIREHOSE" ∧ IsSet env "DOMAIN" ∧ ¬ IsSet env "OTEL_URL"

/-- No target is for all pillars. -/
def NoMainTarget (env : Env) : Prop :=
  ¬ IsSet env "FIREHOSE" ∧ ¬ IsSet env "DOMAIN" ∧ ¬ IsSet env "OTEL_URL"

/-- Variables that exclude each other, or none of which is set although one is needed. -/
inductive ConfigConflict (env : Env) : ConfigError → Prop where
  | firehose (hfirehose : IsSet env "FIREHOSE") (hother : IsSet env "DOMAIN" ∨ IsSet env "OTEL_URL") :
    ConfigConflict env .firehoseConflict
  | url (hfirehose : ¬ IsSet env "FIREHOSE") (hdomain : IsSet env "DOMAIN")
      (hurl : IsSet env "OTEL_URL") :
    ConfigConflict env .urlConflict
  | keyTwice (hdomain : DomainOnly env) (hkey : IsSet env "API_KEY" ∨ IsSet env "PRIVATE_KEY")
      (hsecret : IsSet env "SECRET") :
    ConfigConflict env .keySourceConflict
  | keyMissing (hdomain : DomainOnly env) (hkey : ¬ (IsSet env "API_KEY" ∨ IsSet env "PRIVATE_KEY"))
      (hsecret : ¬ IsSet env "SECRET") :
    ConfigConflict env .missingKeySource
  | target (pillar : String) (enabled : Prop) (hpillar : (pillar, enabled) ∈ pillars env)
      (henabled : enabled) (hmain : NoMainTarget env)
      (hown : ¬ IsSet env ("OTEL_" ++ pillar ++ "_URL")) :
    ConfigConflict env (.missingTarget pillar)
  | metricsModeTwice (hmode : IsSet env "METRICS_MODE") (henabled : IsSet env "METRICS_ENABLED") :
    ConfigConflict env .metricsModeConflict
  | logOnlyMetricsMode (mode : PlatformMetricsMode) (hlogOnly : SetTo env "LOG_ONLY" true)
      (hmode : NamedBy env "METRICS_MODE" PlatformMetricsMode.names mode) (hne : mode ≠ .disabled)
      (henabled : ¬ IsSet env "METRICS_ENABLED") :
    ConfigConflict env .logOnlyMetricsConflict
  | logOnlyMetricsEnabled (hlogOnly : SetTo env "LOG_ONLY" true)
      (henabled : SetTo env "METRICS_ENABLED" true) (hmode : ¬ IsSet env "METRICS_MODE") :
    ConfigConflict env .logOnlyMetricsConflict
  | logOnlyTracing (mode : TracingMode) (hlogOnly : SetTo env "LOG_ONLY" true)
      (hmode : NamedBy env "TRACING_MODE" TracingMode.names mode) (hne : mode ≠ .disabled) :
    ConfigConflict env .logOnlyTracingConflict

/-- A variable with a value that is not understood. -/
inductive InvalidValue (p : Surroundings) : ConfigError → Prop where
  | strategy (s : String) (hset : getStringOption p.env "REPORTING_STRATEGY" = some s)
      (hname : lowercase (trim s) ∉ TelemetryReportingStrategy.names.flatMap Prod.fst) :
    InvalidValue p (.invalidReportingStrategy s)
  | mode (v : ModeVariable) (s : String) (hmem : v ∈ modeVariables)
      (hset : getStringOption p.env v.key = some s) (hname : lowercase (trim s) ∉ v.names) :
    InvalidValue p (v.error (lowercase (trim s)))
  /-- The variable that `LOGS_METADATA_ENABLED` has replaced is not read if that one is set. -/
  | boolean (key s : String) (hmem : key ∈ booleanVariables)
      (hset : getEnvVarWithPrefix p.env key = some s) (hparse : parseBool s = none)
      (hread : key = "LOG_METADATA_ENABLED" → ¬ IsSet p.env "LOGS_METADATA_ENABLED") :
    InvalidValue p (.invalidBoolean key s)
  | natural (key s : String) (hmem : key ∈ naturalVariables)
      (hset : getEnvVarWithPrefix p.env key = some s) (hparse : parseU64 (trim s) = none) :
    InvalidValue p (.invalidInteger key s)
  | integer (s : String) (hset : getEnvVarWithPrefix p.env "TAG_CACHE_VALIDITY_MS" = some s)
      (hparse : parseI64 (trim s) = none) :
    InvalidValue p (.invalidInteger "TAG_CACHE_VALIDITY_MS" s)
  | interval (s : String) (n : Nat)
      (hset : getEnvVarWithPrefix p.env "AWS_TELEMETRY_INTERVAL_MS" = some s)
      (hparse : parseU64 (trim s) = some n) (hrange : n < 25 ∨ 30000 < n) :
    InvalidValue p (.invalidTelemetryInterval n)
  | platformLogs (s token : String) (hset : getStringOption p.env "PLATFORM_LOGS" = some s)
      (henabled : lowercase (trim s) ∉ ["disabled", "0", ""])
      (hmem : token ∈ splitAtChar ',' (lowercase (trim s)))
      (hname : trim token ∉ platformEventLogNames) :
    InvalidValue p (.invalidPlatformEventLog (trim token))
  | exclusion (s : String) (hset : getStringOption p.env "EXCLUDED_SPAN_ATTRIBUTES" = some s)
      (hname : lowercase (trim s) ∉ AttributeExclusionMode.names.flatMap Prod.fst)
      (hregex : p.newRegex (trim s) = none) :
    InvalidValue p (.invalidAttributeExclusionMode s)
  | builtInAttribute (pillar s token : String) (hpillar : pillar ∈ ["TRACES", "METRICS", "LOGS"])
      (hset : listedAttributes p.env pillar = some s) (hmem : token ∈ splitAtChar ',' s)
      (hname : attributeToken token ∉ builtInAttributeNames) :
    InvalidValue p (.invalidBuiltInAttribute (.invalidBuiltInAttribute (attributeToken token)))

/-- What is wrong, with the error that says so. -/
inductive ConfigDefect (p : Surroundings) : ConfigError → Prop where
  | strategyMissing (h : ¬ IsSet p.env "REPORTING_STRATEGY") :
    ConfigDefect p (.variableMissing "REPORTING_STRATEGY")
  | conflict {e : ConfigError} (h : ConfigConflict p.env e) : ConfigDefect p e
  | invalid {e : ConfigError} (h : InvalidValue p e) : ConfigDefect p e

/-! ## Reading one variable -/

section

variable {env : Env} {key : String}

theorem isSet_iff : IsSet env key ↔ ∃ s, getEnvVarWithPrefix env key = some s :=
  Option.isSome_iff_exists

theorem isSet_of_getStringOption {s : String} (h : getStringOption env key = some s) :
    IsSet env key := by
  unfold getStringOption at h
  obtain ⟨s', hs', -⟩ := Option.map_eq_some_iff.1 h
  exact isSet_iff.2 ⟨s', hs'⟩

theorem getStringOption_eq_none_iff : getStringOption env key = none ↔ ¬ IsSet env key := by
  rw [getStringOption, Option.map_eq_none_iff, IsSet, Bool.not_eq_true, Option.isSome_eq_false_iff,
    Option.isNone_iff_eq_none]

theorem getStringOption_isSome_iff : (getStringOption env key).isSome = true ↔ IsSet env key := by
  rw [getStringOption, Option.isSome_map, IsSet]

theorem getStringOption_cases (env : Env) (key : String) :
    (∃ s, getStringOption env key = some s ∧ IsSet env key) ∨
      getStringOption env key = none ∧ ¬ IsSet env key := by
  cases h : getStringOption env key with
  | none => exact .inr ⟨rfl, getStringOption_eq_none_iff.1 h⟩
  | some s => exact .inl ⟨s, rfl, isSet_of_getStringOption h⟩

theorem SetTo.isSet {b : Bool} (h : SetTo env key b) : IsSet env key := by
  obtain ⟨s, hs, -⟩ := h
  exact isSet_iff.2 ⟨s, hs⟩

theorem SetTo.unique {b b' : Bool} (h : SetTo env key b) (h' : SetTo env key b') : b = b' := by
  obtain ⟨s, hs, hb⟩ := h
  obtain ⟨s', hs', hb'⟩ := h'
  rw [hs] at hs'
  cases hs'
  rw [hb] at hb'
  exact Option.some.inj hb'

section

variable {A : Type} {names : List (List String × A)} {a b : A}

theorem NamedBy.isSet (h : NamedBy env key names a) : IsSet env key := by
  obtain ⟨s, hs, -⟩ := h
  exact isSet_of_getStringOption hs

theorem NamedBy.unique (h : NamedBy env key names a) (h' : NamedBy env key names b) : a = b := by
  obtain ⟨s, hs, ha⟩ := h
  obtain ⟨s', hs', hb⟩ := h'
  rw [hs] at hs'
  cases hs'
  rw [ha] at hb
  exact Option.some.inj hb

theorem lookupName_eq_none_iff {name : String} :
    lookupName names name = none ↔ name ∉ names.flatMap Prod.fst := by
  rw [lookupName, Option.map_eq_none_iff, List.find?_eq_none]
  simp [List.mem_flatMap]

/-- What a name that is not known is reported as. -/
def UnknownName (env : Env) (key : String) (names : List String) (error : String → ConfigError)
    (e : ConfigError) : Prop :=
  ∃ s, getStringOption env key = some s ∧ lowercase (trim s) ∉ names ∧
    e = error (lowercase (trim s))

theorem parseName_reports (error : String → ConfigError) (s : String) :
    Reports (parseName names error s) fun e =>
      lowercase (trim s) ∉ names.flatMap Prod.fst ∧ e = error (lowercase (trim s)) := by
  cases h : lookupName names (lowercase (trim s)) with
  | none => exact .of_error (by simp only [parseName, h]) ⟨lookupName_eq_none_iff.1 h, rfl⟩
  | some a =>
    refine .of_ok (a := a) (by simp only [parseName, h]) fun e he => ?_
    rw [lookupName_eq_none_iff.2 he.1] at h
    cases h

theorem parseName_ok {error : String → ConfigError} {s : String}
    (h : parseName names error s = .ok a) : lookupName names (lowercase (trim s)) = some a := by
  cases hname : lookupName names (lowercase (trim s)) with
  | none =>
    simp only [parseName, hname] at h
    cases h
  | some b =>
    simp only [parseName, hname] at h
    cases h
    rfl

theorem getParsable_parseName_reports (error : String → ConfigError) (default : A) :
    Reports (getParsable (parseName names error) env key default)
      (UnknownName env key (names.flatMap Prod.fst) error) :=
  (Reports.elim fun s _ => parseName_reports error s).congr fun _ => .rfl

theorem mapM_parseName_reports (error : String → ConfigError) :
    Reports ((getStringOption env key).mapM (parseName names error))
      (UnknownName env key (names.flatMap Prod.fst) error) :=
  (Reports.mapM fun s _ => parseName_reports error s).congr fun _ => .rfl

/-- The default, or what the variable names. -/
theorem getParsable_parseName_ok {error : String → ConfigError} {default : A}
    (h : getParsable (parseName names error) env key default = .ok a) :
    ¬ IsSet env key ∧ a = default ∨ NamedBy env key names a := by
  unfold getParsable at h
  cases hs : getStringOption env key with
  | none =>
    rw [hs] at h
    cases h
    exact .inl ⟨getStringOption_eq_none_iff.1 hs, rfl⟩
  | some s =>
    rw [hs] at h
    exact .inr ⟨s, hs, parseName_ok h⟩

theorem mapM_parseName_ok {error : String → ConfigError} {mode : Option A}
    (h : (getStringOption env key).mapM (parseName names error) = .ok mode) :
    ¬ IsSet env key ∧ mode = none ∨ ∃ a, mode = some a ∧ NamedBy env key names a := by
  cases hs : getStringOption env key with
  | none =>
    rw [hs] at h
    cases h
    exact .inl ⟨getStringOption_eq_none_iff.1 hs, rfl⟩
  | some s =>
    rw [hs] at h
    obtain ⟨a, ha, rfl⟩ := map_ok_iff.1 h
    exact .inr ⟨a, rfl, s, hs, parseName_ok ha⟩

/-- What a value that cannot be parsed is reported as. -/
def Unparsable (env : Env) (key : String) (parse : String → Option A)
    (error : String → String → ConfigError) (e : ConfigError) : Prop :=
  ∃ s, getEnvVarWithPrefix env key = some s ∧ parse s = none ∧ e = error key s

variable {parse : String → Option A} {error : String → String → ConfigError}

theorem getOption_reports (parse : String → Option A) (error : String → String → ConfigError)
    (env : Env) (key : String) :
    Reports (getOption parse error env key) (Unparsable env key parse error) := by
  cases hs : getEnvVarWithPrefix env key with
  | none =>
    refine .of_ok (a := none) (by simp only [getOption, hs]) ?_
    rintro e ⟨s, hs', -⟩
    rw [hs] at hs'
    cases hs'
  | some s =>
    cases ha : parse s with
    | none => exact .of_error (by simp only [getOption, hs, ha]) ⟨s, hs, ha, rfl⟩
    | some a =>
      refine .of_ok (a := some a) (by simp only [getOption, hs, ha]) ?_
      rintro e ⟨s', hs', hparse, -⟩
      rw [hs] at hs'
      cases hs'
      rw [ha] at hparse
      cases hparse

theorem getOption_ok {o : Option A} (h : getOption parse error env key = .ok o) :
    ¬ IsSet env key ∧ o = none ∨
      ∃ s a, getEnvVarWithPrefix env key = some s ∧ parse s = some a ∧ o = some a := by
  cases hs : getEnvVarWithPrefix env key with
  | none =>
    simp only [getOption, hs] at h
    cases h
    refine .inl ⟨fun hset => ?_, rfl⟩
    rw [IsSet, hs] at hset
    cases hset
  | some s =>
    cases ha : parse s with
    | none =>
      simp only [getOption, hs, ha] at h
      cases h
    | some a =>
      simp only [getOption, hs, ha] at h
      cases h
      exact .inr ⟨s, a, rfl, ha, rfl⟩

end

theorem getBool_reports (env : Env) (key : String) (default : Bool) :
    Reports (getBool env key default) (Unparsable env key parseBool .invalidBoolean) :=
  (getOption_reports parseBool .invalidBoolean env key).map _

theorem getDurationMs_reports (env : Env) (key : String) (default : Nat) :
    Reports (getDurationMs env key default)
      (Unparsable env key (fun s => parseU64 (trim s)) .invalidInteger) :=
  (getOption_reports _ .invalidInteger env key).map _

theorem getBoolOption_ok {o : Option Bool} (h : getBoolOption env key = .ok o) :
    ¬ IsSet env key ∧ o = none ∨ ∃ b, o = some b ∧ SetTo env key b := by
  rcases getOption_ok h with ⟨hset, rfl⟩ | ⟨s, b, hs, hb, rfl⟩
  · exact .inl ⟨hset, rfl⟩
  · exact .inr ⟨b, rfl, s, hs, hb⟩

/-- A boolean that is false by default. -/
theorem getBool_false_ok {b : Bool} (h : getBool env key false = .ok b) :
    b = true ↔ SetTo env key true := by
  obtain ⟨o, ho, rfl⟩ := map_ok_iff.1 h
  rcases getBoolOption_ok ho with ⟨hset, rfl⟩ | ⟨b, rfl, hb⟩
  · exact ⟨nofun, fun h => absurd h.isSet hset⟩
  · rw [Option.getD_some]
    constructor
    · rintro rfl
      exact hb
    · intro h
      exact hb.unique h

end

end TelemetryExporter
