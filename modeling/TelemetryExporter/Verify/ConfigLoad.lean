import TelemetryExporter.Verify.ConfigDefects

/-!
# Loading reports the defects of the environment

Each part of `AppConfig::load` reports its own defects, and `load` those of all its parts.
-/

namespace TelemetryExporter

open Check

section

variable {env : Env}

/-! ## Targets -/

theorem extractKeySourceConfig_reports (hdomain : DomainOnly env) :
    Reports (extractKeySourceConfig env) fun e =>
      ConfigConflict env e ∧ e ∈ [.keySourceConflict, .missingKeySource] := by
  have hkey : ((getStringOption env "API_KEY").or (getStringOption env "PRIVATE_KEY")).isSome =
      true ↔ IsSet env "API_KEY" ∨ IsSet env "PRIVATE_KEY" := by
    rw [Option.isSome_or, Bool.or_eq_true, getStringOption_isSome_iff, getStringOption_isSome_iff]
  cases hk : (getStringOption env "API_KEY").or (getStringOption env "PRIVATE_KEY") with
  | none =>
    rw [hk] at hkey
    have hkey : ¬ (IsSet env "API_KEY" ∨ IsSet env "PRIVATE_KEY") := fun h => nomatch hkey.2 h
    cases hs : getStringOption env "SECRET" with
    | none =>
      have hsecret := getStringOption_eq_none_iff.1 hs
      exact .of_error (e := .missingKeySource) (by simp only [extractKeySourceConfig, hk, hs])
        ⟨.keyMissing hdomain hkey hsecret, by simp⟩
    | some secretId =>
      have hsecret := isSet_of_getStringOption hs
      refine .of_ok (a := .secretsManager secretId)
        (by simp only [extractKeySourceConfig, hk, hs]) ?_
      rintro e ⟨he, hmem⟩
      cases he with
      | keyTwice _ hkey' => exact hkey hkey'
      | keyMissing _ _ hsecret' => exact hsecret' hsecret
      | _ => simp at hmem
  | some key =>
    rw [hk] at hkey
    have hkey := hkey.1 rfl
    cases hs : getStringOption env "SECRET" with
    | none =>
      have hsecret := getStringOption_eq_none_iff.1 hs
      refine .of_ok (a := .envVar ⟨key⟩) (by simp only [extractKeySourceConfig, hk, hs]) ?_
      rintro e ⟨he, hmem⟩
      cases he with
      | keyTwice _ _ hsecret' => exact hsecret hsecret'
      | keyMissing _ hkey' => exact hkey' hkey
      | _ => simp at hmem
    | some secretId =>
      have hsecret := isSet_of_getStringOption hs
      exact .of_error (e := .keySourceConflict) (by simp only [extractKeySourceConfig, hk, hs])
        ⟨.keyTwice hdomain hkey hsecret, by simp⟩

/-- The errors of `extract_target_configs` about the target for all pillars. -/
def mainTargetErrors : List ConfigError :=
  [.firehoseConflict, .urlConflict, .keySourceConflict, .missingKeySource]

theorem extractMainTarget_reports (env : Env) :
    Reports (extractMainTarget env) fun e => ConfigConflict env e ∧ e ∈ mainTargetErrors := by
  -- where nothing conflicts, there is no error
  have fine (main : Option TargetConfig) (hmain : extractMainTarget env = .ok main)
      (hdomain : ¬ DomainOnly env)
      (hfirehose : ¬ (IsSet env "FIREHOSE" ∧ (IsSet env "DOMAIN" ∨ IsSet env "OTEL_URL")))
      (hurl : ¬ (IsSet env "DOMAIN" ∧ IsSet env "OTEL_URL")) :
      Reports (extractMainTarget env) fun e => ConfigConflict env e ∧ e ∈ mainTargetErrors := by
    refine .of_ok hmain ?_
    rintro e ⟨he, hmem⟩
    cases he with
    | firehose h h' => exact hfirehose ⟨h, h'⟩
    | url _ h h' => exact hurl ⟨h, h'⟩
    | keyTwice h => exact hdomain h
    | keyMissing h => exact hdomain h
    | _ => simp [mainTargetErrors] at hmem
  rcases getStringOption_cases env "FIREHOSE" with ⟨f, hf, hF⟩ | ⟨hf, hF⟩ <;>
    rcases getStringOption_cases env "DOMAIN" with ⟨d, hd, hD⟩ | ⟨hd, hD⟩ <;>
    rcases getStringOption_cases env "OTEL_URL" with ⟨u, hu, hU⟩ | ⟨hu, hU⟩
  · exact .of_error (e := .firehoseConflict) (by simp only [extractMainTarget, hf, hd, hu])
      ⟨.firehose hF (.inl hD), by simp [mainTargetErrors]⟩
  · exact .of_error (e := .firehoseConflict) (by simp only [extractMainTarget, hf, hd, hu])
      ⟨.firehose hF (.inl hD), by simp [mainTargetErrors]⟩
  · exact .of_error (e := .firehoseConflict) (by simp only [extractMainTarget, hf, hd, hu])
      ⟨.firehose hF (.inr hU), by simp [mainTargetErrors]⟩
  · exact fine (some (.firehose f)) (by simp only [extractMainTarget, hf, hd, hu])
      (fun h => h.1 hF) (fun h => h.2.elim hD hU) (fun h => hD h.1)
  · exact .of_error (e := .urlConflict) (by simp only [extractMainTarget, hf, hd, hu])
      ⟨.url hF hD hU, by simp [mainTargetErrors]⟩
  · have hmain : extractMainTarget env = (extractKeySourceConfig env).map fun keySourceConfig =>
        some (.otlp (.coralogix d keySourceConfig)) := by
      simp only [extractMainTarget, hf, hd, hu]
    rw [hmain]
    refine ((extractKeySourceConfig_reports ⟨hF, hD, hU⟩).map _).congr fun e => ?_
    constructor
    · rintro ⟨he, hmem⟩
      exact ⟨he, List.mem_cons_of_mem _ (List.mem_cons_of_mem _ hmem)⟩
    · rintro ⟨he, hmem⟩
      cases he with
      | firehose h => exact absurd h hF
      | url _ _ h => exact absurd h hU
      | keyTwice h h' h'' => exact ⟨.keyTwice h h' h'', by simp⟩
      | keyMissing h h' h'' => exact ⟨.keyMissing h h' h'', by simp⟩
      | _ => simp [mainTargetErrors] at hmem
  · exact fine (some (.otlp (.otel u))) (by simp only [extractMainTarget, hf, hd, hu])
      (fun h => hD h.2.1) (fun h => hF h.1) (fun h => hD h.1)
  · exact fine none (by simp only [extractMainTarget, hf, hd, hu])
      (fun h => hD h.2.1) (fun h => hF h.1) (fun h => hD h.1)

theorem extractMainTarget_ok {main : Option TargetConfig} (h : extractMainTarget env = .ok main) :
    main = none ↔ NoMainTarget env := by
  rcases getStringOption_cases env "FIREHOSE" with ⟨f, hf, hF⟩ | ⟨hf, hF⟩
  · have hmain : main ≠ none := by
      rintro rfl
      cases hd : getStringOption env "DOMAIN" <;> cases hu : getStringOption env "OTEL_URL" <;>
        simp [extractMainTarget, hf, hd, hu] at h
    exact ⟨fun h => absurd h hmain, fun h => absurd hF h.1⟩
  · rcases getStringOption_cases env "DOMAIN" with ⟨d, hd, hD⟩ | ⟨hd, hD⟩
    · have hmain : main ≠ none := by
        rintro rfl
        cases hu : getStringOption env "OTEL_URL" with
        | none =>
          simp only [extractMainTarget, hf, hd, hu] at h
          obtain ⟨_, -, hnone⟩ := map_ok_iff.1 h
          cases hnone
        | some u => simp [extractMainTarget, hf, hd, hu] at h
      exact ⟨fun h => absurd h hmain, fun h => absurd hD h.2.1⟩
    · rcases getStringOption_cases env "OTEL_URL" with ⟨u, hu, hU⟩ | ⟨hu, hU⟩
      · simp only [extractMainTarget, hf, hd, hu] at h
        cases h
        exact ⟨nofun, fun h => absurd hU h.2.2⟩
      · simp only [extractMainTarget, hf, hd, hu] at h
        cases h
        exact ⟨fun _ => ⟨hF, hD, hU⟩, fun _ => rfl⟩

/-- The pillar is exported and has no target. -/
def TargetMissing (env : Env) (pillar : String) (enabled : Prop) (e : ConfigError) : Prop :=
  enabled ∧ NoMainTarget env ∧ ¬ IsSet env ("OTEL_" ++ pillar ++ "_URL") ∧
    e = .missingTarget pillar

theorem requireTarget_reports {enabled : Bool} {P : Prop} (henabled : enabled = true ↔ P)
    {main : Option TargetConfig} (hmain : extractMainTarget env = .ok main) (pillar : String) :
    Reports (requireTarget enabled main (extractTargetConfig env pillar) pillar)
      (TargetMissing env pillar P) := by
  have hiff : (enabled = true ∧ main.isNone = true ∧ (extractTargetConfig env pillar).isNone = true) ↔
      P ∧ NoMainTarget env ∧ ¬ IsSet env ("OTEL_" ++ pillar ++ "_URL") := by
    rw [henabled, ← extractMainTarget_ok hmain, ← getStringOption_eq_none_iff,
      Option.isNone_iff_eq_none, Option.isNone_iff_eq_none, extractTargetConfig,
      Option.map_eq_none_iff]
  by_cases h : P ∧ NoMainTarget env ∧ ¬ IsSet env ("OTEL_" ++ pillar ++ "_URL")
  · refine .of_error (e := .missingTarget pillar) ?_ ⟨h.1, h.2.1, h.2.2, rfl⟩
    rw [requireTarget, if_pos (hiff.2 h)]
  · refine .of_ok (a := ()) ?_ fun e he => h ⟨he.1, he.2.1, he.2.2.1⟩
    rw [requireTarget, if_neg fun h' => h (hiff.1 h')]

/-- What `extract_target_configs` reports. -/
def TargetDefect (env : Env) (e : ConfigError) : Prop :=
  Unparsable env "OTEL_ALPN_ENABLED" parseBool .invalidBoolean e ∨
  Unparsable env "COMBINED_TELEMETRY_ENABLED" parseBool .invalidBoolean e ∨
  ConfigConflict env e ∧ e ∈ mainTargetErrors ∨
  TargetMissing env "LOGS" (LogsEnabled env) e ∨
  TargetMissing env "TRACES" (TracesEnabled env) e ∨
  TargetMissing env "METRICS" (MetricsEnabled env) e

theorem extractTargetConfigs_reports {logsEnabled tracesEnabled metricsEnabled : Bool}
    (hlogs : logsEnabled = true ↔ LogsEnabled env) (htraces : tracesEnabled = true ↔ TracesEnabled env)
    (hmetrics : metricsEnabled = true ↔ MetricsEnabled env) :
    Reports (extractTargetConfigs env logsEnabled tracesEnabled metricsEnabled)
      (TargetDefect env) := by
  unfold extractTargetConfigs
  refine (getBool_reports env _ _).bind fun alpnEnabled _ => ?_
  refine (getBool_reports env _ _).bind fun combinedTelemetryEnabled _ => ?_
  refine (extractMainTarget_reports env).bind fun main hmain => ?_
  refine (requireTarget_reports hlogs hmain _).bind fun _ _ => ?_
  refine (requireTarget_reports htraces hmain _).bind fun _ _ => ?_
  exact (requireTarget_reports hmetrics hmain _).map _

/-! ## Modes -/

/-- What `extract_platform_metrics_mode` reports. -/
def PlatformMetricsDefect (env : Env) (e : ConfigError) : Prop :=
  UnknownName env "METRICS_MODE" (PlatformMetricsMode.names.flatMap Prod.fst) .invalidMetricsMode e ∨
  Unparsable env "METRICS_ENABLED" parseBool .invalidBoolean e ∨
  Unparsable env "LOG_ONLY" parseBool .invalidBoolean e ∨
  ConfigConflict env e ∧ e ∈ [.metricsModeConflict, .logOnlyMetricsConflict]

theorem extractPlatformMetricsMode_reports (env : Env) :
    Reports (extractPlatformMetricsMode env) (PlatformMetricsDefect env) := by
  unfold extractPlatformMetricsMode
  refine (mapM_parseName_reports _).bind fun mode hreadMode => ?_
  refine (getOption_reports _ _ env _).bind fun enabled hreadEnabled => ?_
  refine (getBool_reports env _ _).bind fun logOnly hlogOnly => ?_
  have hlogOnly := getBool_false_ok hlogOnly
  -- where nothing conflicts, there is no error
  have fine (x : Except ConfigError PlatformMetricsMode) (m : PlatformMetricsMode) (hx : x = .ok m)
      (htwice : ¬ (IsSet env "METRICS_MODE" ∧ IsSet env "METRICS_ENABLED"))
      (hmode : SetTo env "LOG_ONLY" true → ∀ m,
        NamedBy env "METRICS_MODE" PlatformMetricsMode.names m → m = .disabled)
      (henabled : SetTo env "LOG_ONLY" true → ¬ SetTo env "METRICS_ENABLED" true) :
      Reports x fun e =>
        ConfigConflict env e ∧ e ∈ [.metricsModeConflict, .logOnlyMetricsConflict] := by
    refine .of_ok hx ?_
    rintro e ⟨he, hmem⟩
    cases he with
    | metricsModeTwice h h' => exact htwice ⟨h, h'⟩
    | logOnlyMetricsMode m h h' hne => exact hne (hmode h m h')
    | logOnlyMetricsEnabled h h' => exact henabled h h'
    | _ => simp at hmem
  rcases mapM_parseName_ok hreadMode with ⟨hmode, rfl⟩ | ⟨m, rfl, hmode⟩ <;>
    rcases getBoolOption_ok hreadEnabled with ⟨henabled, rfl⟩ | ⟨b, rfl, henabled⟩
  · refine fine _ (if logOnly then .disabled else .platformReport) ?_ (fun h => hmode h.1)
      (fun _ _ h => absurd h.isSet hmode) (fun _ h => henabled h.isSet)
    cases logOnly <;> rfl
  · cases b with
    | false =>
      refine fine _ .disabled ?_ (fun h => hmode h.1) (fun _ _ h => absurd h.isSet hmode)
        (fun _ h => nomatch henabled.unique h)
      cases logOnly <;> rfl
    | true =>
      cases logOnly with
      | false =>
        refine fine _ .platformReport rfl (fun h => hmode h.1) (fun _ _ h => absurd h.isSet hmode)
          (fun h => nomatch hlogOnly.2 h)
      | true =>
        exact .of_error rfl ⟨.logOnlyMetricsEnabled (hlogOnly.1 rfl) henabled hmode, by simp⟩
  · cases logOnly with
    | false =>
      exact fine _ m rfl (fun h => henabled h.2) (fun h => nomatch hlogOnly.2 h)
        (fun h => nomatch hlogOnly.2 h)
    | true =>
      by_cases hm : m = .disabled
      · subst hm
        exact fine _ .disabled rfl (fun h => henabled h.2) (fun _ _ h => h.unique hmode)
          (fun _ h => henabled h.isSet)
      · refine .of_error (e := .logOnlyMetricsConflict) ?_
          ⟨.logOnlyMetricsMode m (hlogOnly.1 rfl) hmode hm henabled, by simp⟩
        cases m with
        | disabled => exact absurd rfl hm
        | platformReport => rfl
        | platformV2 => rfl
  · refine .of_error (e := .metricsModeConflict) ?_
      ⟨.metricsModeTwice hmode.isSet henabled.isSet, by simp⟩
    cases m <;> cases b <;> cases logOnly <;> rfl

/-- The platform metrics are on exactly if nothing turns them off. -/
theorem extractPlatformMetricsMode_ok {m : PlatformMetricsMode}
    (h : extractPlatformMetricsMode env = .ok m) : m ≠ .disabled ↔ PlatformMetricsEnabled env := by
  unfold extractPlatformMetricsMode at h
  obtain ⟨mode, hreadMode, h⟩ := bind_ok_iff.1 h
  obtain ⟨enabled, hreadEnabled, h⟩ := bind_ok_iff.1 h
  obtain ⟨logOnly, hlogOnly, h⟩ := bind_ok_iff.1 h
  have hlogOnly := getBool_false_ok hlogOnly
  unfold PlatformMetricsEnabled
  rw [← hlogOnly]
  rcases mapM_parseName_ok hreadMode with ⟨hmode, rfl⟩ | ⟨m', rfl, hmode⟩ <;>
    rcases getBoolOption_ok hreadEnabled with ⟨henabled, rfl⟩ | ⟨b, rfl, henabled⟩
  · have hnamed {m : PlatformMetricsMode} :
        ¬ NamedBy env "METRICS_MODE" PlatformMetricsMode.names m := fun h => hmode h.isSet
    have hset {b : Bool} : ¬ SetTo env "METRICS_ENABLED" b := fun h => henabled h.isSet
    cases logOnly <;> cases h <;> simp [hnamed, hset]
  · have hnamed {m : PlatformMetricsMode} :
        ¬ NamedBy env "METRICS_MODE" PlatformMetricsMode.names m := fun h => hmode h.isSet
    cases b with
    | false => cases logOnly <;> cases h <;> simp [henabled]
    | true =>
      have hset : ¬ SetTo env "METRICS_ENABLED" false := fun h => nomatch henabled.unique h
      cases logOnly <;> cases h
      simp [hnamed, hset]
  · have hset {b : Bool} : ¬ SetTo env "METRICS_ENABLED" b := fun h => henabled h.isSet
    have hnamed : NamedBy env "METRICS_MODE" PlatformMetricsMode.names .disabled ↔
        m' = .disabled := by
      constructor
      · intro h
        exact hmode.unique h
      · rintro rfl
        exact hmode
    cases logOnly with
    | false =>
      cases h
      simp [hset, hnamed]
    | true =>
      cases m' <;> cases h
      simp
  · cases m' <;> cases b <;> cases logOnly <;> cases h

/-- What `extract_tracing_mode` reports. -/
def TracingDefect (env : Env) (e : ConfigError) : Prop :=
  UnknownName env "TRACING_MODE" (TracingMode.names.flatMap Prod.fst) .invalidTracingMode e ∨
  Unparsable env "LOG_ONLY" parseBool .invalidBoolean e ∨
  ConfigConflict env e ∧ e ∈ [.logOnlyTracingConflict]

theorem extractTracingMode_reports (p : Surroundings) :
    Reports (extractTracingMode p) (TracingDefect p.env) := by
  unfold extractTracingMode
  refine (mapM_parseName_reports _).bind fun mode hreadMode => ?_
  refine (getBool_reports p.env _ _).bind fun logOnly hlogOnly => ?_
  have hlogOnly := getBool_false_ok hlogOnly
  -- where nothing conflicts, there is no error
  have fine (x : Except ConfigError TracingMode) (m : TracingMode) (hx : x = .ok m)
      (hmode : SetTo p.env "LOG_ONLY" true → ∀ m,
        NamedBy p.env "TRACING_MODE" TracingMode.names m → m = .disabled) :
      Reports x fun e => ConfigConflict p.env e ∧ e ∈ [.logOnlyTracingConflict] := by
    refine .of_ok hx ?_
    rintro e ⟨he, hmem⟩
    cases he with
    | logOnlyTracing m h h' hne => exact hne (hmode h m h')
    | _ => simp at hmem
  rcases mapM_parseName_ok hreadMode with ⟨hmode, rfl⟩ | ⟨m, rfl, hmode⟩
  · have hnone : SetTo p.env "LOG_ONLY" true → ∀ m,
        NamedBy p.env "TRACING_MODE" TracingMode.names m → m = .disabled :=
      fun _ _ h => absurd h.isSet hmode
    cases logOnly with
    | true => exact fine _ .disabled rfl hnone
    | false =>
      by_cases hwrapper : p.env "AWS_LAMBDA_EXEC_WRAPPER" = some "/opt/otel-handler" ∧
          p.hasOtelWrapperFile = true
      · exact fine _ .otelInstrumentation (if_pos hwrapper) hnone
      · exact fine _ .telemetryApi (if_neg hwrapper) hnone
  · cases logOnly with
    | false =>
      refine fine _ m ?_ fun h => nomatch hlogOnly.2 h
      cases m <;> rfl
    | true =>
      by_cases hm : m = .disabled
      · subst hm
        exact fine _ .disabled rfl fun _ _ h => h.unique hmode
      · refine .of_error (e := .logOnlyTracingConflict) ?_
          ⟨.logOnlyTracing m (hlogOnly.1 rfl) hmode hm, by simp⟩
        cases m with
        | disabled => exact absurd rfl hm
        | telemetryApi => rfl
        | otelInstrumentation => rfl

/-- Traces are on exactly if nothing turns them off. -/
theorem extractTracingMode_ok {p : Surroundings} {m : TracingMode}
    (h : extractTracingMode p = .ok m) : m ≠ .disabled ↔ TracesEnabled p.env := by
  unfold extractTracingMode at h
  obtain ⟨mode, hreadMode, h⟩ := bind_ok_iff.1 h
  obtain ⟨logOnly, hlogOnly, h⟩ := bind_ok_iff.1 h
  have hlogOnly := getBool_false_ok hlogOnly
  unfold TracesEnabled
  rw [← hlogOnly]
  rcases mapM_parseName_ok hreadMode with ⟨hmode, rfl⟩ | ⟨m', rfl, hmode⟩
  · have hnamed : ¬ NamedBy p.env "TRACING_MODE" TracingMode.names .disabled :=
      fun h => hmode h.isSet
    cases logOnly with
    | true =>
      cases h
      simp
    | false =>
      by_cases hwrapper : p.env "AWS_LAMBDA_EXEC_WRAPPER" = some "/opt/otel-handler" ∧
          p.hasOtelWrapperFile = true
      · cases (if_pos hwrapper).symm.trans h
        simp [hnamed]
      · cases (if_neg hwrapper).symm.trans h
        simp [hnamed]
  · have hnamed : NamedBy p.env "TRACING_MODE" TracingMode.names .disabled ↔ m' = .disabled := by
      constructor
      · intro h
        exact hmode.unique h
      · rintro rfl
        exact hmode
    cases logOnly with
    | false =>
      have hm : m' = m := by
        cases m' <;> cases h <;> rfl
      subst hm
      simp [hnamed]
    | true =>
      cases m' <;> cases h
      simp

theorem getParsable_logMode_ok {m : LogMode}
    (h : getParsable LogMode.fromStr env "LOG_MODE" .structured = .ok m) :
    m ≠ .disabled ↔ LogsEnabled env := by
  rcases getParsable_parseName_ok h with ⟨hset, rfl⟩ | hm
  · exact ⟨fun _ h => hset h.isSet, fun _ => nofun⟩
  · constructor
    · intro hne h
      exact hne (hm.unique h)
    · rintro hne rfl
      exact hne hm

theorem getParsable_otelMetricsMode_ok {m : OtelMetricsMode}
    (h : getParsable OtelMetricsMode.fromStr env "OTEL_METRICS_MODE" .processed = .ok m) :
    m ≠ .disabled ↔ ¬ NamedBy env "OTEL_METRICS_MODE" OtelMetricsMode.names .disabled := by
  rcases getParsable_parseName_ok h with ⟨hset, rfl⟩ | hm
  · exact ⟨fun _ h => hset h.isSet, fun _ => nofun⟩
  · constructor
    · intro hne h
      exact hne (hm.unique h)
    · rintro hne rfl
      exact hne hm

/-! ## The other settings -/

/-- What `extract_aws_telemetry_interval` reports. -/
def IntervalDefect (env : Env) (e : ConfigError) : Prop :=
  Unparsable env "AWS_TELEMETRY_INTERVAL_MS" (fun s => parseU64 (trim s)) .invalidInteger e ∨
  ∃ s n, getEnvVarWithPrefix env "AWS_TELEMETRY_INTERVAL_MS" = some s ∧
    parseU64 (trim s) = some n ∧ (n < 25 ∨ 30000 < n) ∧ e = .invalidTelemetryInterval n

theorem extractAwsTelemetryInterval_reports (env : Env) (strategy : TelemetryReportingStrategy) :
    Reports (extractAwsTelemetryInterval env strategy) (IntervalDefect env) := by
  unfold extractAwsTelemetryInterval
  refine (getOption_reports _ _ env _).bind fun interval hinterval => ?_
  rcases getOption_ok hinterval with ⟨hset, rfl⟩ | ⟨s, n, hs, hn, rfl⟩
  · have hnone : ∀ e : ConfigError,
        ¬ ∃ s n, getEnvVarWithPrefix env "AWS_TELEMETRY_INTERVAL_MS" = some s ∧
          parseU64 (trim s) = some n ∧ (n < 25 ∨ 30000 < n) ∧ e = .invalidTelemetryInterval n := by
      rintro e ⟨s, n, hs, -⟩
      exact hset (isSet_iff.2 ⟨s, hs⟩)
    cases strategy with
    | lowOverhead => exact .of_ok (a := 500) rfl hnone
    | reportAfterInvocation => exact .of_ok (a := 25) rfl hnone
    | reportDuringAndAfterInvocation => exact .of_ok (a := 500) rfl hnone
  · by_cases hrange : 25 ≤ n ∧ n ≤ 30000
    · refine .of_ok (a := n) (if_pos hrange) ?_
      rintro e ⟨s', n', hs', hn', hrange', -⟩
      rw [hs] at hs'
      cases hs'
      rw [hn] at hn'
      cases hn'
      omega
    · exact .of_error (e := .invalidTelemetryInterval n) (if_neg hrange)
        ⟨s, n, hs, hn, by omega, rfl⟩

/-- What `extract_logs_metadata_mode` reports. -/
def LogsMetadataDefect (env : Env) (e : ConfigError) : Prop :=
  (Unparsable env "LOGS_METADATA_ENABLED" parseBool .invalidBoolean e ∨
    ¬ IsSet env "LOGS_METADATA_ENABLED" ∧
      Unparsable env "LOG_METADATA_ENABLED" parseBool .invalidBoolean e) ∨
  Unparsable env "LOGS_METADATA_INCLUDE_TRACE_REF" parseBool .invalidBoolean e ∨
  Unparsable env "LOGS_METADATA_INCLUDE_EXECUTION" parseBool .invalidBoolean e ∨
  Unparsable env "LOGS_METADATA_INCLUDE_INVOCATION_ID" parseBool .invalidBoolean e

theorem extractLogsMetadataEnabled_reports (env : Env) :
    Reports (extractLogsMetadataEnabled env) fun e =>
      Unparsable env "LOGS_METADATA_ENABLED" parseBool .invalidBoolean e ∨
        ¬ IsSet env "LOGS_METADATA_ENABLED" ∧
          Unparsable env "LOG_METADATA_ENABLED" parseBool .invalidBoolean e := by
  have heq : extractLogsMetadataEnabled env = (getBoolOption env "LOGS_METADATA_ENABLED") >>=
      fun o => o.elim (getBool env "LOG_METADATA_ENABLED" true) .ok := by
    unfold extractLogsMetadataEnabled
    cases getBoolOption env "LOGS_METADATA_ENABLED" with
    | error e => rfl
    | ok o => cases o <;> rfl
  rw [heq]
  refine (getOption_reports _ _ env _).bind fun o ho => ?_
  rcases getBoolOption_ok ho with ⟨hset, rfl⟩ | ⟨b, rfl, hb⟩
  · exact (getBool_reports env _ _).congr fun e => ⟨fun h => ⟨hset, h⟩, fun h => h.2⟩
  · exact .of_ok (a := b) rfl fun e he => he.1 hb.isSet

theorem extractLogsMetadataMode_reports (env : Env) :
    Reports (extractLogsMetadataMode env) (LogsMetadataDefect env) := by
  unfold extractLogsMetadataMode
  refine (extractLogsMetadataEnabled_reports env).bind fun enabled _ => ?_
  refine (getBool_reports env _ _).bind fun includeTraceRef _ => ?_
  refine (getBool_reports env _ _).bind fun includeExecution _ => ?_
  exact (getBool_reports env _ _).map _

theorem PlatformEventLogSet.addToken_reports (result : PlatformEventLogSet) (token : String) :
    Reports (addToken result token) fun e =>
      trim token ∉ platformEventLogNames ∧ e = .invalidPlatformEventLog (trim token) := by
  by_cases h1 : trim token = "start" ∨ trim token = "1"
  · refine .of_ok (a := { result with start := true }) (if_pos h1) fun e he => he.1 ?_
    rcases h1 with h1 | h1 <;> simp [platformEventLogNames, h1]
  by_cases h2 : trim token = "runtime_done" ∨ trim token = "2"
  · refine .of_ok (a := { result with runtimeDone := true }) ((if_neg h1).trans (if_pos h2))
      fun e he => he.1 ?_
    rcases h2 with h2 | h2 <;> simp [platformEventLogNames, h2]
  by_cases h3 : trim token = "report" ∨ trim token = "3"
  · refine .of_ok (a := { result with report := true })
      (((if_neg h1).trans (if_neg h2)).trans (if_pos h3)) fun e he => he.1 ?_
    rcases h3 with h3 | h3 <;> simp [platformEventLogNames, h3]
  · refine .of_error (((if_neg h1).trans (if_neg h2)).trans (if_neg h3)) ⟨?_, rfl⟩
    rw [not_or] at h1 h2 h3
    simp [platformEventLogNames, h1, h2, h3]

/-- What `PLATFORM_LOGS` is reported for. -/
def PlatformLogsDefect (env : Env) (e : ConfigError) : Prop :=
  ∃ s, getStringOption env "PLATFORM_LOGS" = some s ∧ lowercase (trim s) ∉ ["disabled", "0", ""] ∧
    ∃ token ∈ splitAtChar ',' (lowercase (trim s)),
      trim token ∉ platformEventLogNames ∧ e = .invalidPlatformEventLog (trim token)

theorem platformLogs_reports (env : Env) :
    Reports (getParsable PlatformEventLogSet.fromStr env "PLATFORM_LOGS" .all)
      (PlatformLogsDefect env) := by
  refine Reports.elim fun s _ => ?_
  by_cases h : lowercase (trim s) = "disabled" ∨ lowercase (trim s) = "0" ∨ lowercase (trim s) = ""
  · refine .of_ok (a := .empty) (if_pos h) fun e he => he.1 ?_
    simpa using h
  · have heq : PlatformEventLogSet.fromStr s =
        (splitAtChar ',' (lowercase (trim s))).foldlM PlatformEventLogSet.addToken .empty := if_neg h
    rw [heq]
    refine (Reports.foldlM PlatformEventLogSet.addToken_reports _ _).congr fun e => ?_
    constructor
    · intro he
      exact ⟨by simpa using h, he⟩
    · intro he
      exact he.2

/-- What `EXCLUDED_SPAN_ATTRIBUTES` is reported for. -/
def ExclusionDefect (p : Surroundings) (e : ConfigError) : Prop :=
  ∃ s, getStringOption p.env "EXCLUDED_SPAN_ATTRIBUTES" = some s ∧
    lowercase (trim s) ∉ AttributeExclusionMode.names.flatMap Prod.fst ∧
    p.newRegex (trim s) = none ∧ e = .invalidAttributeExclusionMode s

theorem exclusion_reports (p : Surroundings) :
    Reports (getParsable (AttributeExclusionMode.fromStr p.newRegex) p.env "EXCLUDED_SPAN_ATTRIBUTES"
      .disabled) (ExclusionDefect p) := by
  refine Reports.elim fun s _ => ?_
  cases hname : lookupName AttributeExclusionMode.names (lowercase (trim s)) with
  | some mode =>
    refine .of_ok (a := mode) (by simp only [AttributeExclusionMode.fromStr, hname]) fun e he => ?_
    rw [lookupName_eq_none_iff.2 he.1] at hname
    cases hname
  | none =>
    cases hregex : p.newRegex (trim s) with
    | some isMatch =>
      refine .of_ok (a := .regex isMatch)
        (by simp only [AttributeExclusionMode.fromStr, hname, hregex]) fun e he => ?_
      cases he.2.1
    | none =>
      exact .of_error (by simp only [AttributeExclusionMode.fromStr, hname, hregex])
        ⟨lookupName_eq_none_iff.1 hname, rfl, rfl⟩

theorem BuiltInAttributeSet.addToken_reports (result : BuiltInAttributeSet) (token : String) :
    Reports (addToken result token) fun e =>
      attributeToken token ∉ builtInAttributeNames ∧
        e = .invalidBuiltInAttribute (attributeToken token) := by
  by_cases h : attributeToken token ∈ builtInAttributeNames
  · have hok : ∃ set, addToken result token = .ok set := by
      simp only [builtInAttributeNames, List.mem_cons, List.not_mem_nil, or_false] at h
      unfold addToken
      simp only [← attributeToken.eq_def]
      rcases h with h | h | h | h | h | h | h | h | h | h | h | h | h | h | h <;>
        simp [h]
    obtain ⟨set, hset⟩ := hok
    exact .of_ok hset fun e he => he.1 h
  · refine .of_error ?_ ⟨h, rfl⟩
    simp only [builtInAttributeNames, List.mem_cons, List.not_mem_nil, or_false, not_or] at h
    unfold addToken
    simp only [← attributeToken.eq_def]
    simp [h]

/-- What the built-in attributes of the pillar are reported for. -/
def AttributeDefect (env : Env) (pillar : String) (e : AppConfigError) : Prop :=
  ∃ s, listedAttributes env pillar = some s ∧ ∃ token ∈ splitAtChar ',' s,
    attributeToken token ∉ builtInAttributeNames ∧ e = .invalidBuiltInAttribute (attributeToken token)

theorem extractAttributeConfig_reports (env : Env) (pillar : String) :
    Reports (extractAttributeConfig env pillar) (AttributeDefect env pillar) := by
  have hbuiltIn : extractBuiltInAttributes env pillar =
      (listedAttributes env pillar).elim (.ok .all) BuiltInAttributeSet.fromStr := by
    unfold extractBuiltInAttributes listedAttributes
    cases (getStringOption env (pillar ++ "_RESOURCE_BUILT_IN_ATTRIBUTES")).or
      (getStringOption env "RESOURCE_BUILT_IN_ATTRIBUTES") <;> rfl
  have hreports : Reports (extractBuiltInAttributes env pillar) (AttributeDefect env pillar) := by
    rw [hbuiltIn]
    exact Reports.elim fun s _ => Reports.foldlM BuiltInAttributeSet.addToken_reports _ _
  exact hreports.map _

theorem extractAttributeConfigs_reports (env : Env) :
    Reports (extractAttributeConfigs env) fun e =>
      AttributeDefect env "TRACES" e ∨ AttributeDefect env "METRICS" e ∨
        AttributeDefect env "LOGS" e := by
  unfold extractAttributeConfigs
  refine (extractAttributeConfig_reports env _).bind fun traces _ => ?_
  refine (extractAttributeConfig_reports env _).bind fun metrics _ => ?_
  exact (extractAttributeConfig_reports env _).map _

/-! ## `AppConfig::load` -/

/-- What the processor's configuration is reported for. -/
def ProcessorDefect (p : Surroundings) (e : ConfigError) : Prop :=
  LogsMetadataDefect p.env e ∨
  PlatformLogsDefect p.env e ∨
  Unparsable p.env "PLATFORM_LOGS_INCLUDE_REQUEST_ID" parseBool .invalidBoolean e ∨
  Unparsable p.env "PLATFORM_LOGS_HIDE_DEFAULT_VALUES" parseBool .invalidBoolean e ∨
  UnknownName p.env "TRACE_SAMPLING_MODE" (TraceSamplingMode.names.flatMap Prod.fst)
    .invalidTraceSamplingMode e ∨
  Unparsable p.env "MESSAGE_SIZE_LIMIT" (fun s => parseU64 (trim s)) .invalidInteger e ∨
  ExclusionDefect p e ∨
  ∃ e', (AttributeDefect p.env "TRACES" e' ∨ AttributeDefect p.env "METRICS" e' ∨
    AttributeDefect p.env "LOGS" e') ∧ .invalidBuiltInAttribute e' = e

theorem loadProcessorConfig_reports (p : Surroundings) (logMode : LogMode)
    (platformMetricsMode : PlatformMetricsMode) (otelMetricsMode : OtelMetricsMode)
    (tracingMode : TracingMode) :
    Reports (loadProcessorConfig p logMode platformMetricsMode otelMetricsMode tracingMode)
      (ProcessorDefect p) := by
  unfold loadProcessorConfig
  refine (extractLogsMetadataMode_reports p.env).bind fun logsMetadataMode _ => ?_
  refine (platformLogs_reports p.env).bind fun platformLogSet _ => ?_
  refine (getBool_reports p.env _ _).bind fun includeRequestId _ => ?_
  refine (getBool_reports p.env _ _).bind fun hideDefaultValues _ => ?_
  refine (getParsable_parseName_reports _ _).bind fun traceSamplingMode _ => ?_
  refine (getOption_reports _ _ p.env _).bind fun messageSizeLimit _ => ?_
  refine (exclusion_reports p).bind fun excludedSpanAttributes _ => ?_
  exact ((extractAttributeConfigs_reports p.env).mapError _).map _

/-- What the reporting strategy is reported for. -/
def StrategyDefect (env : Env) (e : ConfigError) : Prop :=
  ¬ IsSet env "REPORTING_STRATEGY" ∧ e = .variableMissing "REPORTING_STRATEGY" ∨
  ∃ s, getStringOption env "REPORTING_STRATEGY" = some s ∧
    lowercase (trim s) ∉ TelemetryReportingStrategy.names.flatMap Prod.fst ∧
    e = .invalidReportingStrategy s

theorem loadStrategy_reports (env : Env) :
    Reports (getString env "REPORTING_STRATEGY" >>= TelemetryReportingStrategy.fromStr)
      (StrategyDefect env) := by
  have heq : getString env "REPORTING_STRATEGY" >>= TelemetryReportingStrategy.fromStr =
      (getStringOption env "REPORTING_STRATEGY").elim (.error (.variableMissing "REPORTING_STRATEGY"))
        TelemetryReportingStrategy.fromStr := by
    unfold getString getStringOption
    cases getEnvVarWithPrefix env "REPORTING_STRATEGY" <;> rfl
  rw [heq]
  rcases getStringOption_cases env "REPORTING_STRATEGY" with ⟨s, hs, hset⟩ | ⟨hs, hset⟩
  · rw [hs]
    refine (@parseName_reports _ TelemetryReportingStrategy.names
      (fun _ => .invalidReportingStrategy s) s).congr fun e => ?_
    constructor
    · rintro ⟨hname, rfl⟩
      exact .inr ⟨s, hs, hname, rfl⟩
    · rintro (⟨hnot, -⟩ | ⟨s', hs', hname, rfl⟩)
      · exact absurd hset hnot
      · rw [hs] at hs'
        cases hs'
        exact ⟨hname, rfl⟩
  · rw [hs]
    exact .of_error rfl (.inl ⟨hset, rfl⟩)

/-- What `load` reports, in its order. -/
def LoadDefect (p : Surroundings) (e : ConfigError) : Prop :=
  StrategyDefect p.env e ∨
  UnknownName p.env "LOG_MODE" (LogMode.names.flatMap Prod.fst) .invalidLogMode e ∨
  TracingDefect p.env e ∨
  PlatformMetricsDefect p.env e ∨
  UnknownName p.env "OTEL_METRICS_MODE" (OtelMetricsMode.names.flatMap Prod.fst)
    .invalidOtelMetricsMode e ∨
  TargetDefect p.env e ∨
  IntervalDefect p.env e ∨
  Unparsable p.env "OTLP_SERVER_ENABLED" parseBool .invalidBoolean e ∨
  Unparsable p.env "TAGS_ENABLED" parseBool .invalidBoolean e ∨
  Unparsable p.env "REPORTING_DELAY_MS" (fun s => parseU64 (trim s)) .invalidInteger e ∨
  Unparsable p.env "MAX_SHUTDOWN_FLUSH_DELAY_MS" (fun s => parseU64 (trim s)) .invalidInteger e ∨
  Unparsable p.env "SPAN_SENDING_THRESHOLD" (fun s => parseU64 (trim s)) .invalidInteger e ∨
  ProcessorDefect p e ∨
  Unparsable p.env "TAG_CACHE_VALIDITY_MS" (fun s => parseI64 (trim s)) .invalidInteger e

theorem load_reports_in_order (p : Surroundings) : Reports (AppConfig.load p) (LoadDefect p) := by
  unfold AppConfig.load
  refine (loadStrategy_reports p.env).bind fun reportingStrategy _ => ?_
  refine (getParsable_parseName_reports _ _).bind fun logMode hlogMode => ?_
  refine (extractTracingMode_reports p).bind fun tracingMode htracing => ?_
  refine (extractPlatformMetricsMode_reports p.env).bind fun platformMetricsMode hplatform => ?_
  refine (getParsable_parseName_reports _ _).bind fun otelMetricsMode hotel => ?_
  refine (extractTargetConfigs_reports ?_ ?_ ?_).bind fun target _ => ?_
  · rw [decide_eq_true_iff, getParsable_logMode_ok hlogMode]
  · rw [decide_eq_true_iff, extractTracingMode_ok htracing]
  · rw [decide_eq_true_iff, extractPlatformMetricsMode_ok hplatform,
      getParsable_otelMetricsMode_ok hotel, MetricsEnabled]
  refine (extractAwsTelemetryInterval_reports p.env _).bind fun interval _ => ?_
  refine (getBool_reports p.env _ _).bind fun otlpServerEnabled _ => ?_
  refine (getBool_reports p.env _ _).bind fun tagsEnabled _ => ?_
  refine (getDurationMs_reports p.env _ _).bind fun reportingDelay _ => ?_
  refine (getDurationMs_reports p.env _ _).bind fun maxShutdownFlushDelay _ => ?_
  refine (getOption_reports _ _ p.env _).bind fun spanSendingThreshold _ => ?_
  refine (loadProcessorConfig_reports p _ _ _ _).bind fun processorConfig _ => ?_
  exact ((getOption_reports _ _ p.env _).map _).map _

/-! ## Every report is a defect, and every defect is reported -/

section

variable {p : Surroundings} {e : ConfigError} {key : String}

theorem Unparsable.boolean (h : Unparsable p.env key parseBool .invalidBoolean e)
    (hmem : key ∈ booleanVariables.erase "LOG_METADATA_ENABLED") : InvalidValue p e := by
  obtain ⟨s, hs, hparse, rfl⟩ := h
  refine .boolean key s (List.mem_of_mem_erase hmem) hs hparse ?_
  rintro rfl
  exact absurd hmem (by decide)

theorem Unparsable.natural (h : Unparsable p.env key (fun s => parseU64 (trim s)) .invalidInteger e)
    (hmem : key ∈ naturalVariables) : InvalidValue p e := by
  obtain ⟨s, hs, hparse, rfl⟩ := h
  exact .natural key s hmem hs hparse

theorem UnknownName.invalid {names : List String} {error : String → ConfigError}
    (h : UnknownName p.env key names error e) (hmem : ⟨key, names, error⟩ ∈ modeVariables) :
    InvalidValue p e := by
  obtain ⟨s, hs, hname, rfl⟩ := h
  exact .mode ⟨key, names, error⟩ s hmem hs hname

theorem TargetMissing.conflict {env : Env} {pillar : String} {enabled : Prop}
    (h : TargetMissing env pillar enabled e) (hpillar : (pillar, enabled) ∈ pillars env) :
    ConfigConflict env e := by
  obtain ⟨henabled, hmain, hown, rfl⟩ := h
  exact .target pillar enabled hpillar henabled hmain hown

theorem AttributeDefect.invalid {pillar : String} {e' : AppConfigError}
    (h : AttributeDefect p.env pillar e') (hpillar : pillar ∈ ["TRACES", "METRICS", "LOGS"]) :
    InvalidValue p (.invalidBuiltInAttribute e') := by
  obtain ⟨s, hs, token, hmem, hname, rfl⟩ := h
  exact .builtInAttribute pillar s token hpillar hs hmem hname

theorem ProcessorDefect.invalid (h : ProcessorDefect p e) : InvalidValue p e := by
  rcases h with ((h | ⟨hset, h⟩) | h | h | h) | h | h | h | h | h | h | ⟨e', h, rfl⟩
  · exact h.boolean (by decide)
  · obtain ⟨s, hs, hparse, rfl⟩ := h
    exact .boolean _ s (by decide) hs hparse fun _ => hset
  · exact h.boolean (by decide)
  · exact h.boolean (by decide)
  · exact h.boolean (by decide)
  · obtain ⟨s, hs, henabled, token, hmem, hname, rfl⟩ := h
    exact .platformLogs s token hs henabled hmem hname
  · exact h.boolean (by decide)
  · exact h.boolean (by decide)
  · exact h.invalid (by simp [modeVariables])
  · exact h.natural (by decide)
  · obtain ⟨s, hs, hname, hregex, rfl⟩ := h
    exact .exclusion s hs hname hregex
  · rcases h with h | h | h
    · exact h.invalid (by decide)
    · exact h.invalid (by decide)
    · exact h.invalid (by decide)

theorem LoadDefect.defect (h : LoadDefect p e) : ConfigDefect p e := by
  rcases h with h | h | h | h | h | h | h | h | h | h | h | h | h | h
  · rcases h with ⟨hset, rfl⟩ | ⟨s, hs, hname, rfl⟩
    · exact .strategyMissing hset
    · exact .invalid (.strategy s hs hname)
  · exact .invalid (h.invalid (by simp [modeVariables]))
  · rcases h with h | h | h
    · exact .invalid (h.invalid (by simp [modeVariables]))
    · exact .invalid (h.boolean (by decide))
    · exact .conflict h.1
  · rcases h with h | h | h | h
    · exact .invalid (h.invalid (by simp [modeVariables]))
    · exact .invalid (h.boolean (by decide))
    · exact .invalid (h.boolean (by decide))
    · exact .conflict h.1
  · exact .invalid (h.invalid (by simp [modeVariables]))
  · rcases h with h | h | h | h | h | h
    · exact .invalid (h.boolean (by decide))
    · exact .invalid (h.boolean (by decide))
    · exact .conflict h.1
    · exact .conflict (h.conflict (by simp [pillars]))
    · exact .conflict (h.conflict (by simp [pillars]))
    · exact .conflict (h.conflict (by simp [pillars]))
  · rcases h with h | ⟨s, n, hs, hn, hrange, rfl⟩
    · exact .invalid (h.natural (by decide))
    · exact .invalid (.interval s n hs hn hrange)
  · exact .invalid (h.boolean (by decide))
  · exact .invalid (h.boolean (by decide))
  · exact .invalid (h.natural (by decide))
  · exact .invalid (h.natural (by decide))
  · exact .invalid (h.natural (by decide))
  · exact .invalid h.invalid
  · obtain ⟨s, hs, hparse, rfl⟩ := h
    exact .invalid (.integer s hs hparse)

theorem ConfigConflict.load (h : ConfigConflict p.env e) : LoadDefect p e := by
  have main (hmem : e ∈ mainTargetErrors) : LoadDefect p e := by
    simp only [LoadDefect, TargetDefect, h, hmem, and_self, true_or, or_true]
  have metrics (hmem : e ∈ [.metricsModeConflict, .logOnlyMetricsConflict]) : LoadDefect p e := by
    simp only [LoadDefect, PlatformMetricsDefect, h, hmem, and_self, true_or, or_true]
  cases h with
  | firehose => exact main (by simp [mainTargetErrors])
  | url => exact main (by simp [mainTargetErrors])
  | keyTwice => exact main (by simp [mainTargetErrors])
  | keyMissing => exact main (by simp [mainTargetErrors])
  | target pillar enabled hpillar henabled hmain hown =>
    have h : TargetMissing p.env pillar enabled (.missingTarget pillar) :=
      ⟨henabled, hmain, hown, rfl⟩
    simp only [pillars, List.mem_cons, Prod.mk.injEq, List.not_mem_nil, or_false] at hpillar
    rcases hpillar with ⟨rfl, rfl⟩ | ⟨rfl, rfl⟩ | ⟨rfl, rfl⟩ <;>
      simp only [LoadDefect, TargetDefect, h, true_or, or_true]
  | metricsModeTwice => exact metrics (by simp)
  | logOnlyMetricsMode => exact metrics (by simp)
  | logOnlyMetricsEnabled => exact metrics (by simp)
  | logOnlyTracing m hlogOnly hmode hne =>
    have h : ConfigConflict p.env .logOnlyTracingConflict ∧
        ConfigError.logOnlyTracingConflict ∈ [.logOnlyTracingConflict] :=
      ⟨.logOnlyTracing m hlogOnly hmode hne, by simp⟩
    simp only [LoadDefect, TracingDefect, h, and_self, true_or, or_true]

theorem InvalidValue.load (h : InvalidValue p e) : LoadDefect p e := by
  cases h with
  | strategy s hset hname =>
    have h : StrategyDefect p.env (.invalidReportingStrategy s) := .inr ⟨s, hset, hname, rfl⟩
    simp only [LoadDefect, h, true_or]
  | mode v s hmem hset hname =>
    have h : UnknownName p.env v.key v.names v.error (v.error (lowercase (trim s))) :=
      ⟨s, hset, hname, rfl⟩
    simp only [modeVariables, List.mem_cons, List.not_mem_nil, or_false] at hmem
    rcases hmem with rfl | rfl | rfl | rfl | rfl <;>
      simp only [LoadDefect, TracingDefect, PlatformMetricsDefect, ProcessorDefect, h, true_or,
        or_true]
  | boolean key s hmem hset hparse hread =>
    have h : Unparsable p.env key parseBool .invalidBoolean (.invalidBoolean key s) :=
      ⟨s, hset, hparse, rfl⟩
    simp only [booleanVariables, List.mem_cons, List.not_mem_nil, or_false] at hmem
    rcases hmem with rfl | rfl | rfl | rfl | rfl | rfl | rfl | rfl | rfl | rfl | rfl | rfl | rfl
    case inr.inr.inr.inr.inr.inr.inr.inl =>
      have hread := hread rfl
      simp only [LoadDefect, ProcessorDefect, LogsMetadataDefect, h, hread, not_false_eq_true,
        and_self, true_or, or_true]
    all_goals
      simp only [LoadDefect, TracingDefect, PlatformMetricsDefect, TargetDefect, ProcessorDefect,
        LogsMetadataDefect, h, true_or, or_true]
  | natural key s hmem hset hparse =>
    have h : Unparsable p.env key (fun s => parseU64 (trim s)) .invalidInteger
        (.invalidInteger key s) := ⟨s, hset, hparse, rfl⟩
    simp only [naturalVariables, List.mem_cons, List.not_mem_nil, or_false] at hmem
    rcases hmem with rfl | rfl | rfl | rfl | rfl <;>
      simp only [LoadDefect, IntervalDefect, ProcessorDefect, h, true_or, or_true]
  | integer s hset hparse =>
    have h : Unparsable p.env "TAG_CACHE_VALIDITY_MS" (fun s => parseI64 (trim s)) .invalidInteger
        (.invalidInteger "TAG_CACHE_VALIDITY_MS" s) := ⟨s, hset, hparse, rfl⟩
    simp only [LoadDefect, h, or_true]
  | interval s n hset hparse hrange =>
    have h : IntervalDefect p.env (.invalidTelemetryInterval n) :=
      .inr ⟨s, n, hset, hparse, hrange, rfl⟩
    simp only [LoadDefect, h, true_or, or_true]
  | platformLogs s token hset henabled hmem hname =>
    have h : PlatformLogsDefect p.env (.invalidPlatformEventLog (trim token)) :=
      ⟨s, hset, henabled, token, hmem, hname, rfl⟩
    simp only [LoadDefect, ProcessorDefect, h, true_or, or_true]
  | exclusion s hset hname hregex =>
    have h : ExclusionDefect p (.invalidAttributeExclusionMode s) := ⟨s, hset, hname, hregex, rfl⟩
    simp only [LoadDefect, ProcessorDefect, h, true_or, or_true]
  | builtInAttribute pillar s token hpillar hset hmem hname =>
    have h : AttributeDefect p.env pillar (.invalidBuiltInAttribute (attributeToken token)) :=
      ⟨s, hset, token, hmem, hname, rfl⟩
    have hprocessor :
        ProcessorDefect p (.invalidBuiltInAttribute (.invalidBuiltInAttribute (attributeToken token))) := by
      refine .inr (.inr (.inr (.inr (.inr (.inr (.inr ⟨_, ?_, rfl⟩))))))
      simp only [List.mem_cons, List.not_mem_nil, or_false] at hpillar
      rcases hpillar with rfl | rfl | rfl <;> simp only [h, true_or, or_true]
    simp only [LoadDefect, hprocessor, true_or, or_true]

theorem loadDefect_iff : LoadDefect p e ↔ ConfigDefect p e := by
  constructor
  · exact LoadDefect.defect
  · intro h
    cases h with
    | strategyMissing hset => exact .inl (.inl ⟨hset, rfl⟩)
    | conflict h => exact h.load
    | invalid h => exact h.load

end

end

/-- **The configuration is rejected for what is wrong with it.** Whatever the environment,
`AppConfig::load` fails exactly if there is a defect, and the error that it returns is one. -/
theorem load_reports_defects (p : Surroundings) :
    (∀ e, AppConfig.load p = .error e → ConfigDefect p e) ∧
      ((∃ config, AppConfig.load p = .ok config) ↔ ∀ e, ¬ ConfigDefect p e) := by
  have h : Reports (AppConfig.load p) (ConfigDefect p) :=
    (load_reports_in_order p).congr fun _ => loadDefect_iff
  exact ⟨h.sound, h.ok_iff⟩

end TelemetryExporter
