import TelemetryExporter.Lib.Table
import TelemetryExporter.Model.Config
import TelemetryExporter.Model.Lowercase

/-!
# The configuration of resource attributes

The part of `app_config.rs` that reads the resource attributes from environment variables. What it
only logs is left out.
-/

namespace TelemetryExporter

/-- `env::var`, with `none` for its errors. -/
abbrev Env := String → Option String

/-- `get_env_var_with_prefix`. -/
def getEnvVarWithPrefix (env : Env) (key : String) : Option String :=
  match env ("CORALOGIX_" ++ key) with
  | some s => some s
  | none => env ("CX_" ++ key)

/-- `get_string_option`. -/
def getStringOption (env : Env) (key : String) : Option String :=
  (getEnvVarWithPrefix env key).map trim

/-- `AppConfigError`, as far as it is about attributes. -/
inductive AppConfigError where
  | invalidBuiltInAttribute (name : String)
  deriving DecidableEq

/-! ## Built-in attributes -/

namespace BuiltInAttributeSet

/-- `BuiltInAttributeSet::empty`. -/
def empty : BuiltInAttributeSet := ⟨false, false, false, false, false, false, false⟩

/-- `BuiltInAttributeSet::all`. -/
def all : BuiltInAttributeSet := ⟨true, true, true, true, true, true, true⟩

/-- One token of `from_str`. -/
def addToken (result : BuiltInAttributeSet) (token : String) :
    Except AppConfigError BuiltInAttributeSet :=
  let name := (lowercase (trim token)).map fun c => if c = '.' then '_' else c
  if name = "" then .ok result
  else if name = "service_name" ∨ name = "1" then .ok { result with serviceName := true }
  else if name = "cloud_provider" ∨ name = "2" then .ok { result with cloudProvider := true }
  else if name = "cloud_account_id" ∨ name = "3" then .ok { result with cloudAccountId := true }
  else if name = "cloud_region" ∨ name = "4" then .ok { result with cloudRegion := true }
  else if name = "faas_name" ∨ name = "5" then .ok { result with faasName := true }
  else if name = "faas_id" ∨ name = "6" then .ok { result with faasId := true }
  else if name = "faas_instance_cx_id" ∨ name = "7" then
    .ok { result with faasInstanceCxId := true }
  else .error (.invalidBuiltInAttribute name)

/-- `from_str`. -/
def fromStr (s : String) : Except AppConfigError BuiltInAttributeSet :=
  (splitAtChar ',' s).foldlM addToken empty

end BuiltInAttributeSet

/-- `extract_built_in_attributes`. -/
def extractBuiltInAttributes (env : Env) (pillar : String) :
    Except AppConfigError BuiltInAttributeSet :=
  match (getStringOption env (pillar ++ "_RESOURCE_BUILT_IN_ATTRIBUTES")).or
      (getStringOption env "RESOURCE_BUILT_IN_ATTRIBUTES") with
  | none => .ok .all
  | some s => BuiltInAttributeSet.fromStr s

/-! ## Extra attributes -/

/-- A pair `key=value` of the list; others are ignored. -/
def parseExtraAttribute (pair : String) : Option (String × String) :=
  match splitAtChar '=' (trim pair) with
  | [key, value] => some (key, value)
  | _ => none

/-- `collect` to a `HashMap`: of two entries with one key the later one stays. -/
def collectEntries (entries : List (String × String)) : Table String String :=
  entries.foldl (fun t (key, value) => t.entry key value fun _ => value) .empty

/-- `extract_extra_attributes`. -/
def extractExtraAttributes (env : Env) (pillar : String) : Table String String :=
  match (getStringOption env (pillar ++ "_RESOURCE_EXTRA_ATTRIBUTES")).or
      (getStringOption env "RESOURCE_EXTRA_ATTRIBUTES") with
  | none => .empty
  | some s => collectEntries ((splitAtChar ',' s).filterMap parseExtraAttribute)

/-! ## The three pillars -/

/-- `extract_attribute_config`. -/
def extractAttributeConfig (env : Env) (pillar : String) :
    Except AppConfigError AttributeConfig := do
  let builtIn ← extractBuiltInAttributes env pillar
  return { builtIn, extra := (extractExtraAttributes env pillar).rows }

/-- `extract_attribute_configs`. -/
def extractAttributeConfigs (env : Env) : Except AppConfigError AttributeConfigs := do
  let traces ← extractAttributeConfig env "TRACES"
  let traces := { traces with builtIn := { traces.builtIn with serviceName := true } }
  let metrics ← extractAttributeConfig env "METRICS"
  let metrics := { metrics with builtIn := { metrics.builtIn with faasInstanceCxId := true } }
  let logs ← extractAttributeConfig env "LOGS"
  return { logs, traces, metrics }

end TelemetryExporter
