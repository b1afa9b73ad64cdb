import TelemetryExporter.Model.Event
import TelemetryExporter.Model.Otlp

/-!
# Function ARNs, X-Ray contexts and the function context
-/

namespace TelemetryExporter

/-! ## `lambda_function_arn.rs` -/

/-- `LambdaFunctionArn`. -/
structure LambdaFunctionArn where
  partition : String
  region : String
  accountId : String
  functionName : String
  version : Option String
  deriving DecidableEq

namespace LambdaFunctionArn

/-- `without_version`. -/
def withoutVersion (arn : LambdaFunctionArn) : LambdaFunctionArn := { arn with version := none }

/-- `with_version`. -/
def withVersion (arn : LambdaFunctionArn) (version : String) : LambdaFunctionArn :=
  { arn with version := some version }

/-- `from_str`. -/
def fromStr (s : String) : Except Error LambdaFunctionArn :=
  match splitAtChar ':' s with
  | ["arn", partition, "lambda", region, accountId, "function", functionName] =>
    .ok { partition, region, accountId, functionName, version := none }
  | ["arn", partition, "lambda", region, accountId, "function", functionName, version] =>
    .ok { partition, region, accountId, functionName, version := some version }
  | _ => .error (.invalidLambdaFunctionArn s)

/-- `Display::fmt`. -/
def toText (arn : LambdaFunctionArn) : String :=
  match arn.version with
  | some version =>
    "arn:" ++ arn.partition ++ ":lambda:" ++ arn.region ++ ":" ++ arn.accountId ++ ":function:" ++
      arn.functionName ++ ":" ++ version
  | none =>
    "arn:" ++ arn.partition ++ ":lambda:" ++ arn.region ++ ":" ++ arn.accountId ++ ":function:" ++
      arn.functionName

end LambdaFunctionArn

/-! ## `xray_trace_context.rs` -/

/-- `XRayTraceContext`. -/
structure XRayTraceContext where
  root : Bytes
  parent : Bytes
  sampled : Bool
  deriving DecidableEq

/-- `[0-9a-f]`. -/
def isLowerHex (c : Char) : Bool := ('0' ≤ c && c ≤ '9') || ('a' ≤ c && c ≤ 'f')

/-- `[0-9a-f]{0,n}`, greedy: what it matches and what is left. The pattern continues with a
character outside the class, so a shorter match never helps and there is no backtracking. -/
def takeLowerHex : Nat → List Char → List Char × List Char
  | n + 1, c :: rest =>
    if isLowerHex c then
      let (digits, left) := takeLowerHex n rest
      (c :: digits, left)
    else ([], c :: rest)
  | _, s => ([], s)

/-- A literal of the pattern. -/
def dropLiteral (literal : String) (s : List Char) : Option (List Char) :=
  if literal.toList <+: s then some (s.drop literal.toList.length) else none

/-- `Root=1-([0-9a-f]{0,8})-([0-9a-f]{0,24});Parent=([0-9a-f]{0,16});Sampled=([0-1])?` at the start
of the text: its four groups. -/
def matchTraceContext (s : List Char) :
    Option (List Char × List Char × List Char × Option Char) := do
  let s ← dropLiteral "Root=1-" s
  let (root1, s) := takeLowerHex 8 s
  let s ← dropLiteral "-" s
  let (root2, s) := takeLowerHex 24 s
  let s ← dropLiteral ";Parent=" s
  let (parent, s) := takeLowerHex 16 s
  let s ← dropLiteral ";Sampled=" s
  let sampled := s.head?.filter fun c => c = '0' ∨ c = '1'
  return (root1, root2, parent, sampled)

/-- `RE.captures`: the leftmost match. -/
def captureTraceContext (s : List Char) :
    Option (List Char × List Char × List Char × Option Char) :=
  s.tails.findSome? matchTraceContext

/-- `decode_hex`: a string that is too short is padded with leading zeros. -/
def decodeHex (s : List Char) (expectedCharacters : Nat) : Option Bytes :=
  if expectedCharacters ≤ s.length then hexDecodeChars s
  else hexDecodeChars (List.replicate (expectedCharacters - s.length) '0' ++ s)

/-- `XRayTraceContext::try_from`, with `none` for its errors. -/
def XRayTraceContext.tryFrom (s : String) : Option XRayTraceContext :=
  match captureTraceContext s.toList with
  | some (root1, root2, parent, some sampled) => do
    let root1Bytes ← decodeHex root1 8
    let root2Bytes ← decodeHex root2 24
    let parent ← decodeHex parent 16
    return { root := root1Bytes ++ root2Bytes, parent, sampled := sampled = '1' }
  | _ => none

/-! ## `function_context.rs` -/

/-- `FunctionContext`. -/
structure FunctionContext where
  arn : LambdaFunctionArn
  versionArn : LambdaFunctionArn
  applicationName : String
  subsystemName : String
  serviceName : String
  lambdaFunctionVersion : String
  lambdaInstanceCoralogixId : String
  tags : Option (List (String × String))

end TelemetryExporter
