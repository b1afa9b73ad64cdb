import TelemetryExporter.Lib.Entries
import TelemetryExporter.Model.LogProcessor
import Mathlib.Data.String.Basic

/-!
# JSON values as OTLP values

`AnyValue::from` keeps every JSON value apart from every other, as long as its integers are in the
range of an `i64`. An integer from `2^63` on, which `serde_json` reads as a `u64`, becomes a double:
`as_f64` succeeds for every number, so the branch that would keep its digits as a string is never
reached.
-/

namespace TelemetryExporter

/-! ## Numbers -/

namespace Number

/-- The numbers that `serde_json` makes: an integer that is not negative is a `PosInt`. -/
def isParsed : Number → Bool
  | posInt n => n < UInt64.size
  | negInt n => -0x8000000000000000 ≤ n && n < 0
  | float _ => true

/-- The integers among them. -/
def isInteger : Number → Bool
  | posInt n => n < UInt64.size
  | negInt n => -0x8000000000000000 ≤ n && n < 0
  | float _ => false

/-- The integers that are in the range of an `i64`. -/
def isI64 : Number → Bool
  | posInt n => n < 0x8000000000000000
  | negInt n => -0x8000000000000000 ≤ n && n < 0
  | float _ => false

theorem isParsed_of_isInteger {n : Number} (h : n.isInteger = true) : n.isParsed = true := by
  cases n with
  | posInt => exact h
  | negInt => exact h
  | float => rfl

end Number

mutual

/-- All numbers of the value, at any depth, are of the kind. -/
def Json.allNumbers (p : Number → Bool) : Json → Bool
  | .number n => p n
  | .array a => arrayNumbers p a
  | .object o => objectNumbers p o
  | _ => true

/-- The numbers of an array. -/
def arrayNumbers (p : Number → Bool) : List Json → Bool
  | [] => true
  | v :: rest => v.allNumbers p && arrayNumbers p rest

/-- The numbers of an object. -/
def objectNumbers (p : Number → Bool) : List (String × Json) → Bool
  | [] => true
  | (_, v) :: rest => v.allNumbers p && objectNumbers p rest

end

mutual

theorem Json.allNumbers_mono {p q : Number → Bool} (hpq : ∀ n, p n = true → q n = true) :
    ∀ v : Json, v.allNumbers p = true → v.allNumbers q = true
  | .null, _ => rfl
  | .bool _, _ => rfl
  | .string _, _ => rfl
  | .number n, h => hpq n h
  | .array a, h => arrayNumbers_mono hpq a h
  | .object o, h => objectNumbers_mono hpq o h

theorem arrayNumbers_mono {p q : Number → Bool} (hpq : ∀ n, p n = true → q n = true) :
    ∀ a : List Json, arrayNumbers p a = true → arrayNumbers q a = true
  | [], _ => rfl
  | v :: rest, h => by
    simp only [arrayNumbers, Bool.and_eq_true] at h ⊢
    exact ⟨Json.allNumbers_mono hpq v h.1, arrayNumbers_mono hpq rest h.2⟩

theorem objectNumbers_mono {p q : Number → Bool} (hpq : ∀ n, p n = true → q n = true) :
    ∀ o : List (String × Json), objectNumbers p o = true → objectNumbers q o = true
  | [], _ => rfl
  | (_, v) :: rest, h => by
    simp only [objectNumbers, Bool.and_eq_true] at h ⊢
    exact ⟨Json.allNumbers_mono hpq v h.1, objectNumbers_mono hpq rest h.2⟩

end

/-! ## Doubles -/

mutual

/-- A double occurs in the value, at any depth. -/
def Value.hasDouble : Value → Bool
  | .doubleValue _ => true
  | .arrayValue values => arrayHasDouble values
  | .kvlistValue values => entriesHaveDouble values
  | _ => false

/-- A double occurs. -/
def anyHasDouble : AnyValueOf Value → Bool
  | ⟨some value⟩ => value.hasDouble
  | ⟨none⟩ => false

/-- A double occurs in an array. -/
def arrayHasDouble : List (AnyValueOf Value) → Bool
  | [] => false
  | v :: rest => anyHasDouble v || arrayHasDouble rest

/-- A double occurs in an entry. -/
def entryHasDouble : KeyValueOf Value → Bool
  | ⟨_, some value⟩ => anyHasDouble value
  | ⟨_, none⟩ => false

/-- A double occurs in a list of entries. -/
def entriesHaveDouble : List (KeyValueOf Value) → Bool
  | [] => false
  | e :: rest => entryHasDouble e || entriesHaveDouble rest

end

/-- An integer in the range of an `i64` is kept. -/
theorem fromJson_posInt {n : Nat} (h : n < 0x8000000000000000) :
    AnyValueOf.fromJson (.number (.posInt n)) = ⟨some (.intValue n)⟩ := if_pos h

/-- A larger one is rounded. -/
theorem fromJson_posInt_large {n : Nat} (h : 0x8000000000000000 ≤ n) :
    AnyValueOf.fromJson (.number (.posInt n)) = ⟨some (.doubleValue (Float.ofNat n))⟩ :=
  if_neg (Nat.not_lt.2 h)

mutual

/-- Of integers, exactly those outside the range of an `i64` become doubles. -/
theorem fromJson_hasDouble : ∀ v : Json, v.allNumbers Number.isInteger = true →
    anyHasDouble (.fromJson v) = !v.allNumbers Number.isI64
  | .null, _ => rfl
  | .bool _, _ => rfl
  | .string _, _ => rfl
  | .number (.posInt n), _ => by
    have hmatch : (Json.number (.posInt n)).allNumbers Number.isI64 =
        decide (n < 0x8000000000000000) := rfl
    by_cases h : n < 0x8000000000000000
    · rw [hmatch, fromJson_posInt h, decide_eq_true h]
      rfl
    · rw [hmatch, fromJson_posInt_large (Nat.not_lt.1 h), decide_eq_false h]
      rfl
  | .number (.negInt n), h => by
    have hmatch : (Json.number (.negInt n)).allNumbers Number.isI64 = true := h
    rw [hmatch]
    rfl
  | .number (.float _), h => by cases h
  | .array a, h => fromJsonArray_hasDouble a h
  | .object o, h => fromJsonObject_hasDouble o h

theorem fromJsonArray_hasDouble : ∀ a : List Json, arrayNumbers Number.isInteger a = true →
    arrayHasDouble (fromJsonArray a) = !arrayNumbers Number.isI64 a
  | [], _ => rfl
  | v :: rest, h => by
    simp only [arrayNumbers, Bool.and_eq_true] at h
    simp only [fromJsonArray, arrayHasDouble, arrayNumbers, Bool.not_and]
    rw [fromJson_hasDouble v h.1, fromJsonArray_hasDouble rest h.2]

theorem fromJsonObject_hasDouble : ∀ o : List (String × Json),
    objectNumbers Number.isInteger o = true →
    entriesHaveDouble (fromJsonObject o) = !objectNumbers Number.isI64 o
  | [], _ => rfl
  | (k, v) :: rest, h => by
    simp only [objectNumbers, Bool.and_eq_true] at h
    simp only [fromJsonObject, entriesHaveDouble, entryHasDouble, objectNumbers, Bool.not_and]
    rw [fromJson_hasDouble v h.1, fromJsonObject_hasDouble rest h.2]

end

/-! ## Injectivity -/

/-- The value is an integer or a double. -/
def isNumeric : AnyValue → Bool
  | ⟨some (.intValue _)⟩ => true
  | ⟨some (.doubleValue _)⟩ => true
  | _ => false

theorem fromJson_isNumeric (n : Number) : isNumeric (.fromJson (.number n)) = true := by
  cases n with
  | posInt n =>
    by_cases h : n < 0x8000000000000000
    · rw [fromJson_posInt h]
      rfl
    · rw [fromJson_posInt_large (Nat.not_lt.1 h)]
      rfl
  | negInt n => rfl
  | float f => rfl

theorem fromJson_number_ne {n : Number} {v : Json} (hv : isNumeric (.fromJson v) = false) :
    AnyValueOf.fromJson (.number n) ≠ AnyValueOf.fromJson v := by
  intro h
  rw [← h, fromJson_isNumeric] at hv
  cases hv

/-- An integer in the range of an `i64` is told from every other number. -/
theorem fromJson_number_inj {n m : Number} (hn : n.isI64 = true) (hm : m.isParsed = true)
    (h : AnyValueOf.fromJson (.number m) = AnyValueOf.fromJson (.number n)) : m = n := by
  have same (i : Int) (hi : AnyValueOf.fromJson (.number m) = ⟨some (.intValue i)⟩) :
      (0 ≤ i → m = .posInt i.toNat) ∧ (i < 0 → m = .negInt i) := by
    cases m with
    | posInt m =>
      by_cases hsmall : m < 0x8000000000000000
      · rw [fromJson_posInt hsmall] at hi
        cases hi
        refine ⟨fun _ => rfl, fun hneg => ?_⟩
        exact absurd hneg (Int.not_lt.2 (Int.natCast_nonneg _))
      · rw [fromJson_posInt_large (Nat.not_lt.1 hsmall)] at hi
        cases hi
    | negInt m =>
      have heq : m = i := by
        cases hi
        rfl
      subst heq
      have hneg : m < 0 := by
        simp only [Number.isParsed, Bool.and_eq_true, decide_eq_true_eq] at hm
        exact hm.2
      exact ⟨fun hpos => absurd hneg (Int.not_lt.2 hpos), fun _ => rfl⟩
    | float f => cases hi
  cases n with
  | posInt n =>
    have hn : n < 0x8000000000000000 := of_decide_eq_true hn
    rw [fromJson_posInt hn] at h
    exact (same n h).1 (Int.natCast_nonneg n)
  | negInt n =>
    simp only [Number.isI64, Bool.and_eq_true, decide_eq_true_eq] at hn
    exact (same n h).2 hn.2
  | float f => cases hn

mutual

/-- A value whose numbers are integers in the range of an `i64` is the only one with its OTLP value. -/
theorem fromJson_inj : ∀ v w : Json, v.allNumbers Number.isI64 = true →
    w.allNumbers Number.isParsed = true → AnyValueOf.fromJson w = AnyValueOf.fromJson v → w = v
  | .null, w, _, _, h => by
    cases w with
    | null => rfl
    | number m => exact absurd h (fromJson_number_ne rfl)
    | _ => cases h
  | .bool b, w, _, _, h => by
    cases w with
    | bool b' =>
      cases h
      rfl
    | number m => exact absurd h (fromJson_number_ne rfl)
    | _ => cases h
  | .string s, w, _, _, h => by
    cases w with
    | string s' =>
      cases h
      rfl
    | number m => exact absurd h (fromJson_number_ne rfl)
    | _ => cases h
  | .number n, w, hv, hw, h => by
    cases w with
    | number m => rw [fromJson_number_inj hv hw h]
    | _ => exact absurd h.symm (fromJson_number_ne rfl)
  | .array a, w, hv, hw, h => by
    cases w with
    | array b =>
      have helements : fromJsonArray b = fromJsonArray a := by
        injection h with h
        injection h with h
        injection h
      rw [fromJsonArray_inj a b hv hw helements]
    | number m => exact absurd h (fromJson_number_ne rfl)
    | _ => cases h
  | .object o, w, hv, hw, h => by
    cases w with
    | object o' =>
      have hentries : fromJsonObject o' = fromJsonObject o := by
        injection h with h
        injection h with h
        injection h
      rw [fromJsonObject_inj o o' hv hw hentries]
    | number m => exact absurd h (fromJson_number_ne rfl)
    | _ => cases h

theorem fromJsonArray_inj : ∀ a b : List Json, arrayNumbers Number.isI64 a = true →
    arrayNumbers Number.isParsed b = true → fromJsonArray b = fromJsonArray a → b = a
  | [], [], _, _, _ => rfl
  | [], _ :: _, _, _, h => by cases h
  | _ :: _, [], _, _, h => by cases h
  | v :: a, w :: b, hv, hw, h => by
    simp only [arrayNumbers, Bool.and_eq_true] at hv hw
    simp only [fromJsonArray, List.cons.injEq] at h
    rw [fromJson_inj v w hv.1 hw.1 h.1, fromJsonArray_inj a b hv.2 hw.2 h.2]

theorem fromJsonObject_inj : ∀ o o' : List (String × Json), objectNumbers Number.isI64 o = true →
    objectNumbers Number.isParsed o' = true → fromJsonObject o' = fromJsonObject o → o' = o
  | [], [], _, _, _ => rfl
  | [], _ :: _, _, _, h => by cases h
  | _ :: _, [], _, _, h => by cases h
  | (k, v) :: o, (k', w) :: o', hv, hw, h => by
    simp only [objectNumbers, Bool.and_eq_true] at hv hw
    simp only [fromJsonObject, List.cons.injEq, KeyValueOf.mk.injEq, Option.some.injEq] at h
    rw [h.1.1, fromJson_inj v w hv.1 hw.1 h.1.2, fromJsonObject_inj o o' hv.2 hw.2 h.2]

end

/-! ## Objects -/

theorem insertEntry_eq (key : String) (value : Json) (m : List (String × Json)) :
    insertEntry key value m = Entries.insert key value m := by
  induction m with
  | nil => rfl
  | cons e rest ih =>
    obtain ⟨k, v⟩ := e
    simp only [insertEntry, Entries.insert, ih]

/-- The fields that are not skipped. -/
def presentFields (fields : List (String × Option Json)) : List (String × Json) :=
  fields.filterMap fun (k, v) => v.map fun v => (k, v)

theorem ofFields_eq (fields : List (String × Option Json)) :
    Json.ofFields fields = Entries.insertAll [] (presentFields fields) := by
  unfold Json.ofFields presentFields Entries.insertAll
  generalize ([] : List (String × Json)) = m
  induction fields generalizing m with
  | nil => rfl
  | cons field fields ih =>
    obtain ⟨k, v⟩ := field
    cases v with
    | none => exact ih m
    | some v =>
      refine (ih (insertEntry k v m)).trans ?_
      rw [insertEntry_eq]
      rfl

theorem mem_ofFields {fields : List (String × Option Json)} {e : String × Json}
    (h : e ∈ Json.ofFields fields) : (e.1, some e.2) ∈ fields := by
  rw [ofFields_eq] at h
  have hpresent := (Entries.mem_insertAll h).resolve_right List.not_mem_nil
  obtain ⟨⟨k, v⟩, hmem, heq⟩ := List.mem_filterMap.1 hpresent
  cases v with
  | none => cases heq
  | some v =>
    cases heq
    exact hmem

theorem objectNumbers_iff {p : Number → Bool} {o : List (String × Json)} :
    objectNumbers p o = true ↔ ∀ e ∈ o, e.2.allNumbers p = true := by
  induction o with
  | nil => simp [objectNumbers]
  | cons e rest ih => simp [objectNumbers, ih]

theorem fromJsonObject_eq_map (o : List (String × Json)) :
    fromJsonObject o = o.map fun e => ⟨e.1, some (.fromJson e.2)⟩ := by
  induction o with
  | nil => rfl
  | cons e rest ih =>
    simp only [fromJsonObject, List.map_cons, ih]

/-- A value with integers only has an OTLP value of its own, without doubles, exactly if its integers
are in the range of an `i64`. -/
theorem json_converted_exactly_iff {v : Json} (hv : v.allNumbers Number.isInteger = true) :
    ((∀ w : Json, w.allNumbers Number.isInteger = true →
        AnyValueOf.fromJson w = AnyValueOf.fromJson v → w = v) ∧
      anyHasDouble (.fromJson v) = false) ↔ v.allNumbers Number.isI64 = true := by
  have hdouble := fromJson_hasDouble v hv
  constructor
  · rintro ⟨-, hnone⟩
    rw [hnone] at hdouble
    simpa using hdouble
  · intro hsmall
    refine ⟨fun w hw h => ?_, by rw [hdouble, hsmall]; rfl⟩
    exact fromJson_inj v w hsmall
      (w.allNumbers_mono (fun _ => Number.isParsed_of_isInteger) hw) h

theorem json_converted_exactly_minus_one :
    (∀ w : Json, w.allNumbers Number.isInteger = true →
      AnyValueOf.fromJson w = AnyValueOf.fromJson (.array [.number (.negInt (-1))]) →
        w = .array [.number (.negInt (-1))]) ∧
      anyHasDouble (.fromJson (.array [.number (.negInt (-1))])) = false :=
  (json_converted_exactly_iff (by decide)).2 (by decide)

/-- `2^63` and its successor are one double. -/
theorem json_large_integers_merged :
    (Json.number (.posInt 0x8000000000000000)).allNumbers Number.isInteger = true ∧
      (Json.number (.posInt 0x8000000000000001)).allNumbers Number.isInteger = true ∧
      Json.number (.posInt 0x8000000000000000) ≠ Json.number (.posInt 0x8000000000000001) ∧
      AnyValueOf.fromJson (.number (.posInt 0x8000000000000000)) =
        AnyValueOf.fromJson (.number (.posInt 0x8000000000000001)) ∧
      anyHasDouble (.fromJson (.number (.posInt 0x8000000000000000))) = true := by
  have hdouble : Float.ofNat 0x8000000000000000 = Float.ofNat 0x8000000000000001 := rfl
  refine ⟨by decide, by decide, fun h => ?_, ?_, rfl⟩
  · injection h with h
    injection h with h
    omega
  · rw [fromJson_posInt_large (Nat.le_refl _), fromJson_posInt_large (by omega), hdouble]

end TelemetryExporter
