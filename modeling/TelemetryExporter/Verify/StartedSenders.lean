import TelemetryExporter.Model.Exporter
import TelemetryExporter.Verify.ConfigLoad

/-!
# The senders of a started exporter

What `AppConfig::load` and `start_telemetry_exporter` make of the environment together: every pillar
that is exported has a sender, and the API key goes nowhere but to the ingress of the domain.
-/

namespace TelemetryExporter

open Check

/-! ## The targets of a loaded configuration -/

/-- The targets are those of the environment, and each exported pillar has one. -/
structure LoadedTargets (env : Env) (config : AppConfig) : Prop where
  main : extractMainTarget env = .ok config.target.main
  logs : config.target.logs = extractTargetConfig env "LOGS"
  traces : config.target.traces = extractTargetConfig env "TRACES"
  metrics : config.target.metrics = extractTargetConfig env "METRICS"
  logsSent : config.telemetryServiceConfig.processorConfig.logMode ≠ .disabled →
    config.target.main.isSome = true ∨ config.target.logs.isSome = true
  tracesSent : config.telemetryServiceConfig.processorConfig.tracingMode ≠ .disabled →
    config.target.main.isSome = true ∨ config.target.traces.isSome = true
  metricsSent : config.telemetryServiceConfig.processorConfig.platformMetricsMode ≠ .disabled ∨
      config.telemetryServiceConfig.processorConfig.otelMetricsMode ≠ .disabled →
    config.target.main.isSome = true ∨ config.target.metrics.isSome = true

section

variable {p : Surroundings} {env : Env} {config : AppConfig}

theorem requireTarget_ok {enabled : Bool} {main : Option TargetConfig}
    {target : Option OtlpTargetConfig} {pillar : String}
    (h : requireTarget enabled main target pillar = .ok ()) (henabled : enabled = true) :
    main.isSome = true ∨ target.isSome = true := by
  unfold requireTarget at h
  split at h
  · cases h
  · next hnone =>
    cases main with
    | some main => exact .inl rfl
    | none =>
      cases target with
      | some target => exact .inr rfl
      | none => exact absurd ⟨henabled, rfl, rfl⟩ hnone

/-- The four modes that decide which pillars are exported are those that the targets are required
for. -/
theorem loadProcessorConfig_modes {logMode : LogMode} {platformMetricsMode : PlatformMetricsMode}
    {otelMetricsMode : OtelMetricsMode} {tracingMode : TracingMode} {c : TelemetryProcessorConfig}
    (h : loadProcessorConfig p logMode platformMetricsMode otelMetricsMode tracingMode = .ok c) :
    c.logMode = logMode ∧ c.platformMetricsMode = platformMetricsMode ∧
      c.otelMetricsMode = otelMetricsMode ∧ c.tracingMode = tracingMode := by
  unfold loadProcessorConfig at h
  obtain ⟨_, -, h⟩ := bind_ok_iff.1 h
  obtain ⟨_, -, h⟩ := bind_ok_iff.1 h
  obtain ⟨_, -, h⟩ := bind_ok_iff.1 h
  obtain ⟨_, -, h⟩ := bind_ok_iff.1 h
  obtain ⟨_, -, h⟩ := bind_ok_iff.1 h
  obtain ⟨_, -, h⟩ := bind_ok_iff.1 h
  obtain ⟨_, -, h⟩ := bind_ok_iff.1 h
  obtain ⟨_, -, h⟩ := bind_ok_iff.1 h
  cases h
  exact ⟨rfl, rfl, rfl, rfl⟩

/-- What `load` has extracted. -/
structure Loaded (p : Surroundings) (config : AppConfig) : Prop where
  logMode : getParsable LogMode.fromStr p.env "LOG_MODE" .structured =
    .ok config.telemetryServiceConfig.processorConfig.logMode
  tracingMode : extractTracingMode p = .ok config.telemetryServiceConfig.processorConfig.tracingMode
  platformMetricsMode : extractPlatformMetricsMode p.env =
    .ok config.telemetryServiceConfig.processorConfig.platformMetricsMode
  otelMetricsMode : getParsable OtelMetricsMode.fromStr p.env "OTEL_METRICS_MODE" .processed =
    .ok config.telemetryServiceConfig.processorConfig.otelMetricsMode
  target : extractTargetConfigs p.env
      (config.telemetryServiceConfig.processorConfig.logMode ≠ .disabled)
      (config.telemetryServiceConfig.processorConfig.tracingMode ≠ .disabled)
      (config.telemetryServiceConfig.processorConfig.platformMetricsMode ≠ .disabled ∨
        config.telemetryServiceConfig.processorConfig.otelMetricsMode ≠ .disabled) =
    .ok config.target

theorem load_ok (h : AppConfig.load p = .ok config) : Loaded p config := by
  unfold AppConfig.load at h
  obtain ⟨_, -, h⟩ := bind_ok_iff.1 h
  obtain ⟨logMode, hlogMode, h⟩ := bind_ok_iff.1 h
  obtain ⟨tracingMode, htracing, h⟩ := bind_ok_iff.1 h
  obtain ⟨platformMetricsMode, hplatform, h⟩ := bind_ok_iff.1 h
  obtain ⟨otelMetricsMode, hotel, h⟩ := bind_ok_iff.1 h
  obtain ⟨target, htarget, h⟩ := bind_ok_iff.1 h
  obtain ⟨_, -, h⟩ := bind_ok_iff.1 h
  obtain ⟨_, -, h⟩ := bind_ok_iff.1 h
  obtain ⟨_, -, h⟩ := bind_ok_iff.1 h
  obtain ⟨_, -, h⟩ := bind_ok_iff.1 h
  obtain ⟨_, -, h⟩ := bind_ok_iff.1 h
  obtain ⟨_, -, h⟩ := bind_ok_iff.1 h
  obtain ⟨processorConfig, hprocessor, h⟩ := bind_ok_iff.1 h
  obtain ⟨_, -, h⟩ := bind_ok_iff.1 h
  cases h
  obtain ⟨rfl, rfl, rfl, rfl⟩ := loadProcessorConfig_modes hprocessor
  exact ⟨hlogMode, htracing, hplatform, hotel, htarget⟩

theorem load_targets (h : AppConfig.load p = .ok config) : LoadedTargets p.env config := by
  have htarget := (load_ok h).target
  unfold extractTargetConfigs at htarget
  obtain ⟨_, -, htarget⟩ := bind_ok_iff.1 htarget
  obtain ⟨_, -, htarget⟩ := bind_ok_iff.1 htarget
  obtain ⟨main, hmain, htarget⟩ := bind_ok_iff.1 htarget
  obtain ⟨⟨⟩, hlogs, htarget⟩ := bind_ok_iff.1 htarget
  obtain ⟨⟨⟩, htraces, htarget⟩ := bind_ok_iff.1 htarget
  obtain ⟨⟨⟩, hmetrics, htarget⟩ := bind_ok_iff.1 htarget
  have heq := Except.ok.inj htarget
  refine ⟨?_, ?_, ?_, ?_, fun hne => ?_, fun hne => ?_, fun hne => ?_⟩ <;> rw [← heq]
  · exact hmain
  · exact requireTarget_ok hlogs (decide_eq_true hne)
  · exact requireTarget_ok htraces (decide_eq_true hne)
  · exact requireTarget_ok hmetrics (decide_eq_true hne)

/-- A target for one pillar is a plain URL. -/
theorem extractTargetConfig_otel {pillar : String} {target : OtlpTargetConfig}
    (h : extractTargetConfig env pillar = some target) : ∃ url, target = .otel url := by
  obtain ⟨url, -, rfl⟩ := Option.map_eq_some_iff.1 h
  exact ⟨url, rfl⟩

/-- The sources that a key can have. -/
inductive KeySourced (env : Env) : KeySourceConfig → Prop where
  | envVar (apiKey : ApiKey)
      (h : (getStringOption env "API_KEY").or (getStringOption env "PRIVATE_KEY") =
        some apiKey.token) :
    KeySourced env (.envVar apiKey)
  | secretsManager (secretId : String) (h : getStringOption env "SECRET" = some secretId) :
    KeySourced env (.secretsManager secretId)

theorem extractKeySourceConfig_ok {keySourceConfig : KeySourceConfig}
    (h : extractKeySourceConfig env = .ok keySourceConfig) : KeySourced env keySourceConfig := by
  unfold extractKeySourceConfig at h
  split at h
  · next key hkey hsecret =>
    cases h
    exact .envVar ⟨key⟩ hkey
  · next secretId hkey hsecret =>
    cases h
    exact .secretsManager secretId hsecret
  · cases h
  · cases h

/-- A target of Coralogix is there only for `DOMAIN` alone. -/
theorem extractMainTarget_coralogix {domain : String} {keySourceConfig : KeySourceConfig}
    (h : extractMainTarget env = .ok (some (.otlp (.coralogix domain keySourceConfig)))) :
    DomainOnly env ∧ getStringOption env "DOMAIN" = some domain ∧ KeySourced env keySourceConfig := by
  unfold extractMainTarget at h
  split at h
  · next domain' hfirehose hdomain hurl =>
    obtain ⟨key, hkey, heq⟩ := map_ok_iff.1 h
    cases heq
    refine ⟨⟨?_, ?_, ?_⟩, hdomain, extractKeySourceConfig_ok hkey⟩
    · exact getStringOption_eq_none_iff.1 hfirehose
    · exact isSet_of_getStringOption hdomain
    · exact getStringOption_eq_none_iff.1 hurl
  all_goals cases h

end

/-! ## Making the senders -/

/-- The key that a source gives, when nothing has been requested before. -/
inductive KeyGiven (context : StartContext) : KeySourceConfig → ApiKey → Prop where
  | envVar (apiKey : ApiKey) : KeyGiven context (.envVar apiKey) apiKey
  | secretsManager (secretId : String) (apiKey : ApiKey)
      (h : context.getSecret secretId = some apiKey) :
    KeyGiven context (.secretsManager secretId) apiKey

section

variable {context : StartContext} {keys keys' : KeyState}

theorem obtainApiKey_fresh {keySourceConfig : KeySourceConfig} {apiKey : ApiKey}
    (h : (obtainApiKey context keySourceConfig {}).1 = .ok apiKey) :
    KeyGiven context keySourceConfig apiKey := by
  unfold obtainApiKey at h
  cases keySourceConfig with
  | envVar key =>
    cases h
    exact .envVar _
  | secretsManager secretId =>
    dsimp only at h
    split at h
    · next hkey =>
      cases h
      exact .secretsManager secretId _ hkey
    · cases h

/-- One secret is requested at most, and it is the source's. -/
theorem obtainApiKey_requested (keySourceConfig : KeySourceConfig) :
    (obtainApiKey context keySourceConfig {}).2.requested = [] ∨
      ∃ secretId, keySourceConfig = .secretsManager secretId ∧
        (obtainApiKey context keySourceConfig {}).2.requested = [secretId] := by
  cases keySourceConfig with
  | envVar key => exact .inl rfl
  | secretsManager secretId =>
    refine .inr ⟨secretId, rfl, ?_⟩
    unfold obtainApiKey
    dsimp only
    split <;> rfl

theorem OtlpSender.new_ok {target : OtlpTarget} {sender : OtlpSender}
    (h : OtlpSender.new context target = .ok sender) :
    sender.target = target ∧ sender.endpoint =
      { uri := target.url, isTls := (stripPrefix target.url "https://").isSome } := by
  unfold OtlpSender.new at h
  obtain ⟨endpoint, hendpoint, rfl⟩ := map_ok_iff.1 h
  unfold makeEndpoint at hendpoint
  split at hendpoint
  · cases hendpoint
    exact ⟨rfl, rfl⟩
  · cases hendpoint

theorem makeSender_coralogix {domain : String} {keySourceConfig : KeySourceConfig}
    {sender : OtlpSender}
    (h : (makeSender context (.coralogix domain keySourceConfig) {}).1 = .ok sender) :
    ∃ apiKey, KeyGiven context keySourceConfig apiKey ∧
      OtlpSender.new context (.coralogix domain apiKey) = .ok sender := by
  obtain ⟨target, htarget, hnew⟩ := bind_ok_iff.1 h
  obtain ⟨apiKey, hkey, rfl⟩ := map_ok_iff.1 htarget
  exact ⟨apiKey, obtainApiKey_fresh hkey, hnew⟩

theorem makeOptional_ok {A B : Type} {make : A → KeyState → Except StartError B × KeyState}
    {target : Option A} {o : Option B} (h : (makeOptional make target keys).1 = .ok o) :
    target = none ∧ o = none ∨
      ∃ t b, target = some t ∧ (make t keys).1 = .ok b ∧ o = some b := by
  cases target with
  | none =>
    cases h
    exact .inl ⟨rfl, rfl⟩
  | some t =>
    obtain ⟨b, hb, rfl⟩ := map_ok_iff.1 h
    exact .inr ⟨t, b, rfl, hb, rfl⟩

theorem makeOptional_isSome {A B : Type} {make : A → KeyState → Except StartError B × KeyState}
    {target : Option A} {o : Option B} (h : (makeOptional make target keys).1 = .ok o) :
    o.isSome = target.isSome := by
  rcases makeOptional_ok h with ⟨rfl, rfl⟩ | ⟨t, b, rfl, -, rfl⟩ <;> rfl

/-- A plain URL needs no key. -/
theorem makeOptional_otel {target : Option OtlpTargetConfig}
    (htarget : ∀ t, target = some t → ∃ url, t = .otel url) (keys : KeyState) :
    (makeOptional (makeSender context) target keys).2 = keys := by
  cases target with
  | none => rfl
  | some t =>
    obtain ⟨url, rfl⟩ := htarget t rfl
    rfl

/-- The four parts of `startSenders`, in its order. -/
theorem startSenders_ok {targets : TargetConfigs} {senders : CompositeTelemetrySender}
    (h : (startSenders context targets).1 = .ok senders) :
    ∃ logsKeys tracesKeys metricsKeys,
      (makeOptional (makeMainSender context targets.combinedTelemetryEnabled) targets.main {}).1 =
        .ok senders.main ∧
      (makeOptional (makeSender context) targets.logs logsKeys).1 = .ok senders.logs ∧
      (makeOptional (makeSender context) targets.traces tracesKeys).1 = .ok senders.traces ∧
      (makeOptional (makeSender context) targets.metrics metricsKeys).1 = .ok senders.metrics := by
  unfold startSenders at h
  split at h
  · cases h
  · next main keys hmain =>
    split at h
    · cases h
    · next logs keys hlogs =>
      split at h
      · cases h
      · next traces keys htraces =>
        split at h
        · cases h
        · next metrics keys hmetrics =>
          cases h
          exact ⟨_, _, _, by rw [hmain], by rw [hlogs], by rw [htraces], by rw [hmetrics]⟩

/-- If only the main target can need a key, the keys are those that it has needed. -/
theorem startSenders_keys {targets : TargetConfigs}
    (hotel : ∀ target ∈ [targets.logs, targets.traces, targets.metrics],
      ∀ t, target = some t → ∃ url, t = .otel url) :
    (startSenders context targets).2 =
      (makeOptional (makeMainSender context targets.combinedTelemetryEnabled) targets.main {}).2 := by
  have hlogs := @makeOptional_otel context targets.logs (hotel _ (by simp))
  have htraces := @makeOptional_otel context targets.traces (hotel _ (by simp))
  have hmetrics := @makeOptional_otel context targets.metrics (hotel _ (by simp))
  unfold startSenders
  split
  · next h => rw [h]
  · next main mainKeys h =>
    rw [h]
    have hlogs := hlogs mainKeys
    split
    · next hl =>
      rw [hl] at hlogs
      exact hlogs
    · next logs logsKeys hl =>
      rw [hl] at hlogs
      have htraces := htraces logsKeys
      split
      · next ht =>
        rw [ht] at htraces
        exact htraces.trans hlogs
      · next traces tracesKeys ht =>
        rw [ht] at htraces
        have hmetrics := hmetrics tracesKeys
        split
        · next hm =>
          rw [hm] at hmetrics
          exact hmetrics.trans (htraces.trans hlogs)
        · next metrics metricsKeys hm =>
          rw [hm] at hmetrics
          exact hmetrics.trans (htraces.trans hlogs)

theorem makeMainSender_requested (combinedTelemetryEnabled : Bool) (target : TargetConfig) :
    (makeMainSender context combinedTelemetryEnabled target {}).2.requested = [] ∨
      ∃ domain secretId, target = .otlp (.coralogix domain (.secretsManager secretId)) ∧
        (makeMainSender context combinedTelemetryEnabled target {}).2.requested = [secretId] := by
  cases target with
  | firehose name => exact .inl rfl
  | otlp target =>
    cases target with
    | otel url => exact .inl rfl
    | coralogix domain keySourceConfig =>
      rcases @obtainApiKey_requested context keySourceConfig with h | ⟨secretId, rfl, h⟩
      · exact .inl h
      · exact .inr ⟨domain, secretId, rfl, h⟩

/-- The senders of the main target all have that target. -/
theorem makeMainSender_ok {combinedTelemetryEnabled : Bool} {target : TargetConfig}
    {main : MainSender}
    (h : (makeMainSender context combinedTelemetryEnabled target {}).1 = .ok main) :
    (∃ name, target = .firehose name ∧ main = .firehose name) ∨
      ∃ t sender, target = .otlp t ∧ (makeSender context t {}).1 = .ok sender ∧
        (main = .combined sender ∨ main = .coralogix sender sender sender) := by
  cases target with
  | firehose name =>
    cases h
    exact .inl ⟨name, rfl, rfl⟩
  | otlp t =>
    obtain ⟨sender, hsender, heq⟩ := map_ok_iff.1 h
    refine .inr ⟨t, sender, rfl, hsender, ?_⟩
    split at heq
    · exact .inl heq.symm
    · exact .inr heq.symm

end

/-! ## The started exporter -/

section

variable {p : Surroundings} {context : StartContext} {instanceId : String} {setup : Setup}

/-- What a started exporter has been made of. -/
theorem startTelemetryExporter_ok (h : startTelemetryExporter p context instanceId = .ok setup) :
    AppConfig.load p = .ok setup.config ∧
      (startSenders context setup.config.target).1 = .ok setup.senders ∧
      setup.provider.config = setup.config.functionContextProviderConfig ∧
      setup.provider.info.lambdaInstanceCoralogixId = instanceId ∧
      p.env "AWS_REGION" = some setup.provider.info.awsRegion ∧
      p.env "AWS_LAMBDA_FUNCTION_NAME" = some setup.provider.info.lambdaFunctionName ∧
      p.env "AWS_LAMBDA_FUNCTION_VERSION" = some setup.provider.info.lambdaFunctionVersion := by
  have required {key value : String} (h : getRequiredEnvVar p.env key = .ok value) :
      p.env key = some value := by
    unfold getRequiredEnvVar at h
    split at h
    · next hkey =>
      cases h
      exact hkey
    · cases h
  have unmapped {A E F : Type} {f : E → F} {x : Except E A} {a : A} (h : x.mapError f = .ok a) :
      x = .ok a := by
    cases x with
    | error e => cases h
    | ok a' =>
      cases h
      rfl
  unfold startTelemetryExporter at h
  obtain ⟨region, hregion, h⟩ := bind_ok_iff.1 h
  obtain ⟨name, hname, h⟩ := bind_ok_iff.1 h
  obtain ⟨version, hversion, h⟩ := bind_ok_iff.1 h
  obtain ⟨config, hconfig, h⟩ := bind_ok_iff.1 h
  obtain ⟨senders, hsenders, h⟩ := bind_ok_iff.1 h
  cases h
  exact ⟨unmapped hconfig, unmapped hsenders, rfl, rfl, required hregion, required hname,
    required hversion⟩

/-- Each exported pillar has a sender. -/
structure PillarsSent (setup : Setup) : Prop where
  logs : setup.config.telemetryServiceConfig.processorConfig.logMode ≠ .disabled →
    setup.senders.logs.isSome || setup.senders.main.isSome
  traces : setup.config.telemetryServiceConfig.processorConfig.tracingMode ≠ .disabled →
    setup.senders.traces.isSome || setup.senders.main.isSome
  metrics : setup.config.telemetryServiceConfig.processorConfig.platformMetricsMode ≠ .disabled ∨
      setup.config.telemetryServiceConfig.processorConfig.otelMetricsMode ≠ .disabled →
    setup.senders.metrics.isSome || setup.senders.main.isSome

theorem pillarsSent (h : startTelemetryExporter p context instanceId = .ok setup) :
    PillarsSent setup := by
  obtain ⟨hload, hstart, -⟩ := startTelemetryExporter_ok h
  have targets := load_targets hload
  obtain ⟨_, _, _, hmain, hlogs, htraces, hmetrics⟩ := startSenders_ok hstart
  refine ⟨fun hne => ?_, fun hne => ?_, fun hne => ?_⟩ <;> rw [Bool.or_eq_true, Or.comm]
  · rw [makeOptional_isSome hmain, makeOptional_isSome hlogs]
    exact targets.logsSent hne
  · rw [makeOptional_isSome hmain, makeOptional_isSome htraces]
    exact targets.tracesSent hne
  · rw [makeOptional_isSome hmain, makeOptional_isSome hmetrics]
    exact targets.metricsSent hne

/-- The API key that the environment gives. -/
inductive ApiKeyOf (p : Surroundings) (context : StartContext) (apiKey : ApiKey) : Prop where
  | variable
      (h : (getStringOption p.env "API_KEY").or (getStringOption p.env "PRIVATE_KEY") =
        some apiKey.token)
  | secret (secretId : String) (hset : getStringOption p.env "SECRET" = some secretId)
      (h : context.getSecret secretId = some apiKey)

theorem KeyGiven.apiKeyOf {keySourceConfig : KeySourceConfig} {apiKey : ApiKey}
    (h : KeyGiven context keySourceConfig apiKey) (hsourced : KeySourced p.env keySourceConfig) :
    ApiKeyOf p context apiKey := by
  cases h with
  | envVar =>
    cases hsourced with
    | envVar _ hset => exact .variable hset
  | secretsManager secretId _ hanswer =>
    cases hsourced with
    | secretsManager _ hset => exact .secret secretId hset hanswer

/-- The endpoint of the ingress has TLS. -/
theorem ingress_isTls (domain : String) (apiKey : ApiKey) :
    (stripPrefix (OtlpTarget.coralogix domain apiKey).url "https://").isSome = true := by
  unfold stripPrefix OtlpTarget.url
  rw [if_pos]
  · rfl
  · rw [String.toList_append, String.toList_append, List.append_assoc]
    exact List.IsPrefix.trans (by decide : "https://".toList <+: "https://ingress.".toList)
      (List.prefix_append _ _)

/-- A sender of a loaded configuration. -/
inductive LoadedSender (p : Surroundings) (context : StartContext) (sender : OtlpSender) : Prop where
  | otel (url : String) (h : sender.target = .otel url)
  | coralogix (domain : String) (apiKey : ApiKey) (hdomain : DomainOnly p.env)
      (hset : getStringOption p.env "DOMAIN" = some domain) (hkey : ApiKeyOf p context apiKey)
      (h : OtlpSender.new context (.coralogix domain apiKey) = .ok sender)

theorem makeOptional_loaded {pillar : String} {keys : KeyState} {o : Option OtlpSender}
    {sender : OtlpSender}
    (h : (makeOptional (makeSender context) (extractTargetConfig p.env pillar) keys).1 = .ok o)
    (hsender : o = some sender) : LoadedSender p context sender := by
  subst hsender
  rcases makeOptional_ok h with ⟨-, hnone⟩ | ⟨t, s, ht, hs, heq⟩
  · cases hnone
  · cases heq
    obtain ⟨url, rfl⟩ := extractTargetConfig_otel ht
    exact .otel url (OtlpSender.new_ok hs).1

/-- Every sender is one of a loaded configuration. -/
theorem otlpSender_loaded (h : startTelemetryExporter p context instanceId = .ok setup)
    {lane : Lane} {sender : OtlpSender} (hsender : setup.senders.otlpSender lane = some sender) :
    LoadedSender p context sender := by
  obtain ⟨hload, hstart, -⟩ := startTelemetryExporter_ok h
  have targets := load_targets hload
  obtain ⟨_, _, _, hmain, hlogs, htraces, hmetrics⟩ := startSenders_ok hstart
  rw [targets.logs] at hlogs
  rw [targets.traces] at htraces
  rw [targets.metrics] at hmetrics
  -- the senders of the main target
  have main (m : MainSender) (hm : setup.senders.main = some m)
      (hof : m = .combined sender ∨ ∃ a b, m = .coralogix sender a b ∨ m = .coralogix a sender b ∨
        m = .coralogix a b sender) : LoadedSender p context sender := by
    rcases makeOptional_ok hmain with ⟨-, hnone⟩ | ⟨t, m', ht, hm', heq⟩
    · rw [hm] at hnone
      cases hnone
    · rw [hm] at heq
      cases heq
      have hsender : ∃ target, t = .otlp target ∧ (makeSender context target {}).1 = .ok sender := by
        rcases makeMainSender_ok hm' with ⟨name, -, rfl⟩ | ⟨target, s, rfl, hs, rfl | rfl⟩
        · rcases hof with hof | ⟨a, b, hof | hof | hof⟩ <;> cases hof
        · rcases hof with hof | ⟨a, b, hof | hof | hof⟩ <;> cases hof
          exact ⟨target, rfl, hs⟩
        · rcases hof with hof | ⟨a, b, hof | hof | hof⟩ <;> cases hof <;> exact ⟨target, rfl, hs⟩
      obtain ⟨target, rfl, hs⟩ := hsender
      cases target with
      | otel url => exact .otel url (OtlpSender.new_ok hs).1
      | coralogix domain keySourceConfig =>
        obtain ⟨apiKey, hkey, hnew⟩ := makeSender_coralogix hs
        have hmainTarget := targets.main
        rw [ht] at hmainTarget
        obtain ⟨hdomain, hset, hsourced⟩ := extractMainTarget_coralogix hmainTarget
        exact .coralogix domain apiKey hdomain hset (hkey.apiKeyOf hsourced) hnew
  cases lane with
  | logs => exact makeOptional_loaded hlogs hsender
  | traces => exact makeOptional_loaded htraces hsender
  | metrics => exact makeOptional_loaded hmetrics hsender
  | firehose => cases hsender
  | combined =>
    simp only [CompositeTelemetrySender.otlpSender] at hsender
    split at hsender
    · next hm =>
      cases hsender
      exact main _ hm (.inl rfl)
    · cases hsender
  | mainLogs =>
    simp only [CompositeTelemetrySender.otlpSender] at hsender
    split at hsender
    · next hm =>
      cases hsender
      exact main _ hm (.inr ⟨_, _, .inl rfl⟩)
    · cases hsender
  | mainSpans =>
    simp only [CompositeTelemetrySender.otlpSender] at hsender
    split at hsender
    · next hm =>
      cases hsender
      exact main _ hm (.inr ⟨_, _, .inr (.inl rfl)⟩)
    · cases hsender
  | mainMetrics =>
    simp only [CompositeTelemetrySender.otlpSender] at hsender
    split at hsender
    · next hm =>
      cases hsender
      exact main _ hm (.inr ⟨_, _, .inr (.inr rfl)⟩)
    · cases hsender

/-- **The API key stays on its way to the ingress.** In an exporter that has started, a sender that
authorizes its requests does so with the key that the environment gives, and sends them over TLS to
the ingress of the configured domain, which is then the only main target. Whether the senders can be
made or not, at most one secret is requested, and it is that of the environment. -/
theorem api_key_confined (p : Surroundings) (context : StartContext) (instanceId : String) :
    (∀ setup, startTelemetryExporter p context instanceId = .ok setup →
      ∀ lane sender authorization, setup.senders.otlpSender lane = some sender →
        sender.target.authorization = some authorization →
        ∃ domain apiKey, DomainOnly p.env ∧ getStringOption p.env "DOMAIN" = some domain ∧
          ApiKeyOf p context apiKey ∧ authorization = "Bearer " ++ apiKey.token ∧
          sender.endpoint = { uri := "https://ingress." ++ domain ++ ":443", isTls := true }) ∧
    ∀ config, AppConfig.load p = .ok config →
      (startSenders context config.target).2.requested = [] ∨
        DomainOnly p.env ∧ ∃ secretId, getStringOption p.env "SECRET" = some secretId ∧
          (startSenders context config.target).2.requested = [secretId] := by
  constructor
  · intro setup h lane sender authorization hsender hauthorization
    cases otlpSender_loaded h hsender with
    | otel url htarget =>
      rw [htarget] at hauthorization
      cases hauthorization
    | coralogix domain apiKey hdomain hset hkey hnew =>
      obtain ⟨htarget, hendpoint⟩ := OtlpSender.new_ok hnew
      rw [htarget] at hauthorization
      cases hauthorization
      refine ⟨domain, apiKey, hdomain, hset, hkey, rfl, ?_⟩
      rw [hendpoint, ingress_isTls]
      rfl
  · intro config hload
    have targets := load_targets hload
    rw [startSenders_keys]
    · rcases hm : config.target.main with - | target
      · exact .inl rfl
      · rcases @makeMainSender_requested context config.target.combinedTelemetryEnabled target with
          hnone | ⟨domain, secretId, rfl, hsecret⟩
        · exact .inl hnone
        · have hmain := targets.main
          rw [hm] at hmain
          obtain ⟨hdomain, -, hsourced⟩ := extractMainTarget_coralogix hmain
          cases hsourced with
          | secretsManager _ hset => exact .inr ⟨hdomain, secretId, hset, hsecret⟩
    · intro target hmem t ht
      rw [targets.logs, targets.traces, targets.metrics] at hmem
      simp only [List.mem_cons, List.not_mem_nil, or_false] at hmem
      rcases hmem with rfl | rfl | rfl
      · exact extractTargetConfig_otel ht
      · exact extractTargetConfig_otel ht
      · exact extractTargetConfig_otel ht

end

/-- The sample environment with a secret instead of the key. -/
def secretSurroundings : Surroundings :=
  let p := sampleSurroundings [("CX_SECRET", "secret")]
  { p with env := fun key => if key = "CX_API_KEY" then none else p.env key }

/-- The secret is the key. -/
def secretContext : StartContext :=
  { sampleStartContext with getSecret := fun id => if id = "secret" then some ⟨"key"⟩ else none }

/-- The sender of the spans authorizes its requests with the secret. -/
theorem api_key_confined_secret :
    ∃ setup sender, startTelemetryExporter secretSurroundings secretContext "id" = .ok setup ∧
      setup.senders.otlpSender .mainSpans = some sender ∧
      sender.target.authorization = some "Bearer key" ∧
      DomainOnly secretSurroundings.env ∧
      sender.endpoint = { uri := "https://ingress.example.com:443", isTls := true } := by
  obtain ⟨setup, hstart, hsender⟩ : ∃ setup,
      startTelemetryExporter secretSurroundings secretContext "id" = .ok setup ∧
        (setup.senders.otlpSender .mainSpans).any (fun sender =>
          sender.target.authorization = some "Bearer key") = true := by
    have h : ((startTelemetryExporter secretSurroundings secretContext "id").toOption.any
        fun setup => (setup.senders.otlpSender .mainSpans).any fun sender =>
          sender.target.authorization = some "Bearer key") = true := by
      decide +kernel
    cases hstart : startTelemetryExporter secretSurroundings secretContext "id" with
    | error e =>
      rw [hstart] at h
      cases h
    | ok setup =>
      rw [hstart] at h
      exact ⟨setup, rfl, h⟩
  obtain ⟨sender, hsender, hauthorization⟩ := (Option.any_eq_true _ _).1 hsender
  have hauthorization := of_decide_eq_true hauthorization
  obtain ⟨domain, apiKey, hdomain, hset, -, -, hendpoint⟩ :=
    (api_key_confined secretSurroundings secretContext "id").1 setup hstart .mainSpans sender _ hsender
      hauthorization
  have heq : some domain = some "example.com" := hset.symm.trans (by decide +kernel)
  cases heq
  exact ⟨setup, sender, hstart, hsender, hauthorization, hdomain, hendpoint⟩

end TelemetryExporter
