import TelemetryExporter.Model.AttributeConfig
import TelemetryExporter.Model.Service

/-!
# Keys of resource attributes

The attributes that the exporter itself puts into a resource have distinct keys, whatever is enabled
and whatever tags the function has. The extra attributes of the user come after them as they are, so
an extra attribute with one of their keys is the second with this key.
-/

namespace TelemetryExporter

/-- The key, if the attribute is included. -/
def keyIf (included : Bool) (key : String) : List String := if included then [key] else []

/-- The keys of the built-in attributes of the set. -/
def builtInKeys (builtIn : BuiltInAttributeSet) : List String :=
  keyIf builtIn.serviceName "service.name" ++ keyIf builtIn.cloudProvider "cloud.provider" ++
  keyIf builtIn.cloudAccountId "cloud.account.id" ++ keyIf builtIn.cloudRegion "cloud.region" ++
  keyIf builtIn.faasName "faas.name" ++ keyIf builtIn.faasId "faas.id" ++
  keyIf builtIn.faasInstanceCxId "faas.instance.cx_id"

/-- The keys of the tags. -/
def tagKeys (functionContext : FunctionContext) : List String :=
  (functionContext.tags.getD []).map fun tag => "tag." ++ tag.1

/-- The keys of all attributes but the extra ones. -/
def exporterKeys (functionContext : FunctionContext) (config : AttributeConfig) : List String :=
  "cx.application.name" :: "cx.subsystem.name" ::
    (builtInKeys config.builtIn ++ tagKeys functionContext)

/-- The keys of a resource. -/
def Resource.keys (r : Resource) : List String := r.attributes.map (·.key)

/-- The tags come from a map. -/
def FunctionContext.HasDistinctTags (functionContext : FunctionContext) : Prop :=
  ((functionContext.tags.getD []).map Prod.fst).Nodup

section

variable {functionContext : FunctionContext} {config : AttributeConfig}

theorem resource_keys (functionContext : FunctionContext) (config : AttributeConfig) :
    (resource functionContext config).keys =
      exporterKeys functionContext config ++ config.extra.map Prod.fst := by
  have builtIn (included : Bool) (key value : String) :
      (if included then [stringAttribute key value] else []).map (·.key) = keyIf included key := by
    cases included <;> rfl
  simp only [Resource.keys, resource, List.map_append, builtIn, List.map_cons, List.map_nil,
    List.map_map]
  simp only [exporterKeys, builtInKeys, tagKeys, List.append_assoc, List.cons_append,
    List.nil_append]
  rfl

/-- The keys that can occur, apart from the tags and the extra attributes. -/
def fixedKeys : List String :=
  ["cx.application.name", "cx.subsystem.name", "service.name", "cloud.provider",
    "cloud.account.id", "cloud.region", "faas.name", "faas.id", "faas.instance.cx_id"]

theorem fixedKeys_sublist (builtIn : BuiltInAttributeSet) :
    ("cx.application.name" :: "cx.subsystem.name" :: builtInKeys builtIn).Sublist fixedKeys := by
  have one (included : Bool) (key : String) : (keyIf included key).Sublist [key] := by
    cases included with
    | true => exact .refl _
    | false => exact List.nil_sublist _
  refine .cons_cons _ (.cons_cons _ ?_)
  exact ((((((one _ _).append (one _ _)).append (one _ _)).append (one _ _)).append
    (one _ _)).append (one _ _)).append (one _ _)

/-- No key of a tag is one of the others. -/
theorem tag_not_fixed (name : String) : "tag." ++ name ∉ fixedKeys := by
  intro h
  have hfirst : ∀ key ∈ fixedKeys, key.toList.head? ≠ some 't' := by decide
  refine hfirst _ h ?_
  rw [String.toList_append]
  rfl

/-- The exporter's own attributes have distinct keys. -/
theorem exporterKeys_nodup (htags : functionContext.HasDistinctTags) :
    (exporterKeys functionContext config).Nodup := by
  have hfixed : fixedKeys.Nodup := by decide
  have hsub := fixedKeys_sublist config.builtIn
  have hkeys : (tagKeys functionContext).Nodup := by
    have hmap : tagKeys functionContext =
        ((functionContext.tags.getD []).map Prod.fst).map fun name => "tag." ++ name := by
      rw [tagKeys, List.map_map]
      rfl
    rw [hmap]
    exact htags.map fun _ _ h => (String.append_right_inj "tag.").1 h
  refine List.nodup_append'.2 ⟨hfixed.sublist hsub, hkeys, fun key hkey htag => ?_⟩
  obtain ⟨tag, -, rfl⟩ := List.mem_map.1 htag
  exact tag_not_fixed tag.1 (hsub.subset hkey)

/-- A second attribute with a key can only be an extra one with a key of the exporter. -/
theorem resource_keys_nodup_iff (htags : functionContext.HasDistinctTags)
    (hextra : (config.extra.map Prod.fst).Nodup) :
    (resource functionContext config).keys.Nodup ↔
      ∀ e ∈ config.extra, e.1 ∉ exporterKeys functionContext config := by
  rw [resource_keys, List.nodup_append']
  constructor
  · rintro ⟨-, -, hdisjoint⟩ e he hmem
    exact hdisjoint hmem (List.mem_map_of_mem he)
  · intro hextra'
    refine ⟨exporterKeys_nodup htags, hextra, fun key hkey hmem => ?_⟩
    obtain ⟨e, he, rfl⟩ := List.mem_map.1 hmem
    exact hextra' e he hkey

theorem extractAttributeConfig_extra {env : Env} {pillar : String}
    (h : extractAttributeConfig env pillar = .ok config) : (config.extra.map Prod.fst).Nodup := by
  unfold extractAttributeConfig at h
  cases hbuiltIn : extractBuiltInAttributes env pillar with
  | error e =>
    rw [hbuiltIn] at h
    cases h
  | ok builtIn =>
    rw [hbuiltIn] at h
    cases h
    exact (extractExtraAttributes env pillar).nodup

/-- Every configuration that is extracted from the environment has extra attributes with distinct
keys. -/
theorem extractAttributeConfigs_extra {env : Env} {configs : AttributeConfigs}
    (h : extractAttributeConfigs env = .ok configs) :
    ∀ config ∈ [configs.logs, configs.traces, configs.metrics],
      (config.extra.map Prod.fst).Nodup := by
  unfold extractAttributeConfigs at h
  cases htraces : extractAttributeConfig env "TRACES" with
  | error e =>
    rw [htraces] at h
    cases h
  | ok traces =>
    cases hmetrics : extractAttributeConfig env "METRICS" with
    | error e =>
      rw [htraces, hmetrics] at h
      cases h
    | ok metrics =>
      cases hlogs : extractAttributeConfig env "LOGS" with
      | error e =>
        rw [htraces, hmetrics, hlogs] at h
        cases h
      | ok logs =>
        rw [htraces, hmetrics, hlogs] at h
        cases h
        intro config hconfig
        simp only [List.mem_cons, List.not_mem_nil, or_false] at hconfig
        rcases hconfig with rfl | rfl | rfl
        · exact extractAttributeConfig_extra hlogs
        · have hextra := extractAttributeConfig_extra htraces
          exact hextra
        · have hextra := extractAttributeConfig_extra hmetrics
          exact hextra

/-- The keys of a resource are distinct, unless the user has configured an extra attribute with a key
that the resource has anyway. -/
theorem resource_keys_distinct_iff {env : Env} {configs : AttributeConfigs}
    (hconfigs : extractAttributeConfigs env = .ok configs)
    (htags : functionContext.HasDistinctTags) :
    ∀ config ∈ [configs.logs, configs.traces, configs.metrics],
      ((resource functionContext config).keys.Nodup ↔
        ∀ e ∈ config.extra, e.1 ∉ exporterKeys functionContext config) :=
  fun config hconfig =>
    resource_keys_nodup_iff htags (extractAttributeConfigs_extra hconfigs config hconfig)

end

/-- An environment with one extra attribute. -/
def extraAttributeEnv (extra : String) : Env := fun name =>
  if name = "CX_RESOURCE_EXTRA_ATTRIBUTES" then some extra else none

/-- The configurations of an environment, found by evaluating them. -/
theorem exists_configs {env : Env} {P : AttributeConfigs → Prop} [DecidablePred P]
    (h : ((extractAttributeConfigs env).toOption.any fun configs => decide (P configs)) = true) :
    ∃ configs, extractAttributeConfigs env = .ok configs ∧ P configs := by
  cases hconfigs : extractAttributeConfigs env with
  | error e =>
    rw [hconfigs] at h
    cases h
  | ok configs =>
    rw [hconfigs] at h
    exact ⟨configs, rfl, of_decide_eq_true h⟩

theorem resource_keys_distinct_other_key :
    ∃ configs, extractAttributeConfigs (extraAttributeEnv "team=x") = .ok configs ∧
      (resource sampleContext configs.logs).keys.Nodup := by
  obtain ⟨configs, hconfigs, hother⟩ := @exists_configs (extraAttributeEnv "team=x")
    (fun configs => ∀ e ∈ configs.logs.extra, e.1 ∉ exporterKeys sampleContext configs.logs) _
    (by decide +kernel)
  have hdistinct := @resource_keys_distinct_iff sampleContext _ _ hconfigs List.nodup_nil
    configs.logs List.mem_cons_self
  exact ⟨configs, hconfigs, hdistinct.2 hother⟩

/-- The user's service name is the second one. -/
theorem resource_keys_repeated :
    ∃ configs, extractAttributeConfigs (extraAttributeEnv "service.name=x") = .ok configs ∧
      ¬ (resource sampleContext configs.logs).keys.Nodup :=
  exists_configs (by decide +kernel)

end TelemetryExporter
