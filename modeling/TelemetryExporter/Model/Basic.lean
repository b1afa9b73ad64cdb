import Mathlib.Data.List.Basic

/-!
# Machine integers, bytes and the code outside the repository

The exporter is a Rust program. A `u64`, `usize` or `u32` is a `Nat` here and an `i64`, `i32` or
`i128` an `Int`; the operations below are the places where the width is visible. An `f64` is Lean's
`Float`, whose operations are the IEEE ones.

What the exporter takes from third-party crates, and what it draws at random, is the class
`External`: every result about the exporter holds for every instance of it.
-/

namespace TelemetryExporter

/-- `Vec<u8>`. -/
abbrev Bytes := List UInt8

/-! ## Integer conversions -/

/-- `x as u64`. -/
def asU64 (x : Int) : Nat := (x % UInt64.size).toNat

/-- `x as i64`, and an `i64` operation that overflows: the release profile has no overflow checks. -/
def asI64 (x : Int) : Int := Int.bmod x UInt64.size

/-- `a + b` at `u64` in the release profile. -/
def wrappingAdd (a b : Nat) : Nat := (a + b) % UInt64.size

/-- `a - b` at `u64` in the release profile. -/
def wrappingSub (a b : Nat) : Nat := (a + (UInt64.size - b % UInt64.size)) % UInt64.size

theorem wrappingAdd_of_lt {a b : Nat} (h : a + b < UInt64.size) : wrappingAdd a b = a + b :=
  Nat.mod_eq_of_lt h

theorem wrappingSub_of_le {a b : Nat} (hb : b ≤ a) (ha : a < UInt64.size) :
    wrappingSub a b = a - b := by
  unfold wrappingSub
  rw [Nat.mod_eq_of_lt (Nat.lt_of_le_of_lt hb ha), show a + (UInt64.size - b) = a - b + UInt64.size by
    omega, Nat.add_mod_right]
  exact Nat.mod_eq_of_lt (by omega)

/-! ## Hexadecimal -/

/-- The value of a hexadecimal digit, in either case. -/
def hexDigit (c : Char) : Option Nat :=
  if '0' ≤ c ∧ c ≤ '9' then some (c.toNat - '0'.toNat)
  else if 'a' ≤ c ∧ c ≤ 'f' then some (c.toNat - 'a'.toNat + 10)
  else if 'A' ≤ c ∧ c ≤ 'F' then some (c.toNat - 'A'.toNat + 10)
  else none

/-- `hex::decode`, with `none` for its `FromHexError`. -/
def hexDecodeChars : List Char → Option Bytes
  | [] => some []
  | [_] => none
  | hi :: lo :: rest => do
    let h ← hexDigit hi
    let l ← hexDigit lo
    let bytes ← hexDecodeChars rest
    return UInt8.ofNat (16 * h + l) :: bytes

/-- `hex::decode`. -/
def hexDecode (s : String) : Option Bytes := hexDecodeChars s.toList

/-- `hex::encode`. -/
def hexEncode (bytes : Bytes) : String :=
  String.ofList (bytes.flatMap fun b =>
    [Nat.digitChar (b.toNat / 16), Nat.digitChar (b.toNat % 16)])

/-! ## Text -/

/-- `char::is_whitespace`: the Unicode property `White_Space`. -/
def isWhitespace (c : Char) : Bool :=
  let n := c.toNat
  (9 ≤ n && n ≤ 13) || n == 0x20 || n == 0x85 || n == 0xA0 || n == 0x1680 ||
    (0x2000 ≤ n && n ≤ 0x200A) || n == 0x2028 || n == 0x2029 || n == 0x202F || n == 0x205F ||
    n == 0x3000

/-- `str::trim`. -/
def trim (s : String) : String :=
  String.ofList ((s.toList.dropWhile isWhitespace).reverse.dropWhile isWhitespace).reverse

/-- `str::strip_prefix`. -/
def stripPrefix (s p : String) : Option String :=
  if p.toList <+: s.toList then some (String.ofList (s.toList.drop p.toList.length)) else none

/-- `str::contains` with a string pattern. -/
def containsText (s pattern : String) : Bool :=
  s.toList.tails.any (pattern.toList.isPrefixOf ·)

/-- `str::split(c)`, collected. -/
def splitAtChar (c : Char) (s : String) : List String := (s.toList.splitOn c).map String.ofList

/-! ## JSON values -/

/-- `serde_json::Number`. -/
inductive Number where
  | posInt (n : Nat)
  | negInt (n : Int)
  | float (f : Float)

/-- `serde_json::Value`. An object's entries are those of its `BTreeMap`, in key order. -/
inductive Json where
  | null
  | bool (b : Bool)
  | number (n : Number)
  | string (s : String)
  | array (values : List Json)
  | object (entries : List (String × Json))

/-- `BTreeMap::insert`: an existing key keeps its place and gets the new value. -/
def insertEntry (key : String) (value : Json) : List (String × Json) → List (String × Json)
  | [] => [(key, value)]
  | (k, v) :: rest =>
    if key = k then (key, value) :: rest
    else if key < k then (key, value) :: (k, v) :: rest
    else (k, v) :: insertEntry key value rest

/-! ## Code outside the repository -/

/-- What the exporter takes from other crates and from the machine. -/
class External where
  /-- `base64_simd::STANDARD.decode_to_vec`. -/
  base64Decode : String → Option Bytes
  /-- `serde_json::from_str::<serde_json::Value>`. -/
  jsonFromStr : String → Option Json
  /-- The `n`-th call of `fastrand::u8(..)`. -/
  randomU8 : Nat → UInt8
  /-- `f64::to_string`. -/
  floatToString : Float → String

/-- Random bytes are drawn from one generator; its state is the number of bytes drawn so far. -/
abbrev Rng := Nat

/-- `repeat_with(|| fastrand::u8(..)).take(n).collect()`. -/
def randomBytes [External] (n : Nat) (rng : Rng) : Bytes × Rng :=
  ((List.range n).map fun i => External.randomU8 (rng + i), rng + n)

/-- `random_trace_id`. -/
def randomTraceId [External] (rng : Rng) : Bytes × Rng := randomBytes 16 rng

/-- `random_span_id`. -/
def randomSpanId [External] (rng : Rng) : Bytes × Rng := randomBytes 8 rng

end TelemetryExporter
