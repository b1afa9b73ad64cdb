import TelemetryExporter.Lib.Split
import TelemetryExporter.Model.Context

/-!
# Function ARNs: parsing and printing

An ARN is printed as its segments joined by colons (`toText_eq`) and parsed by splitting at colons
(`fromStr_ok_iff`). So a string that parses is the text of what it parses to
(`toText_of_fromStr`), and the text of an ARN parses to that ARN exactly when no field contains a
colon (`fromStr_toText_iff`): `arn_roundTrip`.
-/

namespace TelemetryExporter

/-- The pieces joined by `c`. -/
def joinAtChar (c : Char) (pieces : List String) : String :=
  String.ofList ([c].intercalate (pieces.map String.toList))

theorem joinAtChar_splitAtChar (c : Char) (s : String) : joinAtChar c (splitAtChar c s) = s := by
  unfold joinAtChar splitAtChar
  have hpieces : ((s.toList.splitOn c).map String.ofList).map String.toList = s.toList.splitOn c := by
    rw [List.map_map]
    apply List.map_id''
    intro piece
    exact String.toList_ofList
  rw [hpieces, List.intercalate_splitOn, String.ofList_toList]

theorem splitAtChar_eq_iff (c : Char) (s : String) (pieces : List String) :
    splitAtChar c s = pieces ↔ s.toList.splitOn c = pieces.map String.toList := by
  unfold splitAtChar
  constructor
  · intro h
    rw [← h, List.map_map]
    symm
    apply List.map_id''
    intro piece
    exact String.toList_ofList
  · intro h
    rw [h, List.map_map]
    apply List.map_id''
    intro piece
    exact String.ofList_toList

theorem splitAtChar_joinAtChar_iff (c : Char) {pieces : List String} (hpieces : pieces ≠ []) :
    splitAtChar c (joinAtChar c pieces) = pieces ↔ ∀ piece ∈ pieces, c ∉ piece.toList := by
  have hmap : pieces.map String.toList ≠ [] := by
    intro h
    exact hpieces (List.map_eq_nil_iff.1 h)
  rw [splitAtChar_eq_iff, joinAtChar, String.toList_ofList, List.splitOn_intercalate_iff hmap]
  constructor
  · intro h piece hpiece
    exact h _ (List.mem_map_of_mem hpiece)
  · intro h chars hchars
    obtain ⟨piece, hpiece, rfl⟩ := List.mem_map.1 hchars
    exact h piece hpiece

namespace LambdaFunctionArn

variable {s version : String} {arn : LambdaFunctionArn}

/-! ## Segments -/

/-- The segments of an ARN, as they are printed. -/
def segments (arn : LambdaFunctionArn) : List String :=
  ["arn", arn.partition, "lambda", arn.region, arn.accountId, "function", arn.functionName] ++
    arn.version.toList

/-- No field contains a colon. -/
structure ColonFree (arn : LambdaFunctionArn) : Prop where
  partition : ':' ∉ arn.partition.toList
  region : ':' ∉ arn.region.toList
  accountId : ':' ∉ arn.accountId.toList
  functionName : ':' ∉ arn.functionName.toList
  version : ∀ v, arn.version = some v → ':' ∉ v.toList

theorem segments_ne_nil (arn : LambdaFunctionArn) : arn.segments ≠ [] := by
  unfold segments
  exact List.cons_ne_nil _ _

theorem colonFree_iff : ColonFree arn ↔ ∀ piece ∈ arn.segments, ':' ∉ piece.toList := by
  constructor
  · intro h piece hpiece
    simp only [segments, List.cons_append, List.nil_append, List.mem_cons, Option.mem_toList] at hpiece
    rcases hpiece with rfl | rfl | rfl | rfl | rfl | rfl | rfl | hversion
    · decide
    · exact h.partition
    · decide
    · exact h.region
    · exact h.accountId
    · decide
    · exact h.functionName
    · exact h.version piece hversion
  · intro h
    refine ⟨h _ ?_, h _ ?_, h _ ?_, h _ ?_, fun v hv => h v ?_⟩
    all_goals simp [segments, *]

/-! ## Printing and parsing -/

theorem toText_eq (arn : LambdaFunctionArn) : arn.toText = joinAtChar ':' arn.segments := by
  apply String.toList_injective
  unfold toText joinAtChar segments
  cases arn.version with
  | none => simp [List.intercalate]
  | some version => simp [List.intercalate]

theorem fromStr_of_segments (h : splitAtChar ':' s = arn.segments) : fromStr s = .ok arn := by
  unfold fromStr
  rw [h]
  cases arn with
  | mk partition region accountId functionName version =>
    cases version with
    | none => rfl
    | some version => rfl

theorem segments_of_fromStr (h : fromStr s = .ok arn) : splitAtChar ':' s = arn.segments := by
  unfold fromStr at h
  split at h
  next hsplit =>
    cases h
    exact hsplit
  next hsplit =>
    cases h
    exact hsplit
  next => cases h

/-- A string parses as the ARN whose segments it has between its colons. -/
theorem fromStr_ok_iff : fromStr s = .ok arn ↔ splitAtChar ':' s = arn.segments :=
  ⟨segments_of_fromStr, fromStr_of_segments⟩

theorem toText_of_fromStr (h : fromStr s = .ok arn) : arn.toText = s := by
  rw [toText_eq, ← segments_of_fromStr h]
  exact joinAtChar_splitAtChar ':' s

theorem fromStr_toText_iff : fromStr arn.toText = .ok arn ↔ ColonFree arn := by
  rw [fromStr_ok_iff, toText_eq, splitAtChar_joinAtChar_iff ':' (segments_ne_nil arn), colonFree_iff]

theorem colonFree_of_fromStr (h : fromStr s = .ok arn) : ColonFree arn := by
  rw [← fromStr_toText_iff, toText_of_fromStr h]
  exact h

/-! ## Replacing the version -/

theorem ColonFree.withoutVersion (h : ColonFree arn) : ColonFree arn.withoutVersion :=
  { h with version := fun v hv => by cases hv }

theorem ColonFree.withVersion_iff (h : ColonFree arn) :
    ColonFree (arn.withVersion version) ↔ ':' ∉ version.toList := by
  constructor
  · intro hversion
    exact hversion.version version rfl
  · intro hversion
    refine { h with version := ?_ }
    intro v hv
    cases hv
    exact hversion

end LambdaFunctionArn

open LambdaFunctionArn

/-- Parsing and printing are inverse where no field contains a colon. The version that replaces the
one of a parsed ARN is not checked: the result parses as intended exactly when the new version has no
colon. -/
theorem arn_roundTrip :
    (∀ s arn, fromStr s = .ok arn → arn.toText = s) ∧
    (∀ arn, ColonFree arn → fromStr arn.toText = .ok arn) ∧
    (∀ s arn, fromStr s = .ok arn → fromStr arn.withoutVersion.toText = .ok arn.withoutVersion) ∧
    (∀ s arn version, fromStr s = .ok arn →
      (fromStr (arn.withVersion version).toText = .ok (arn.withVersion version) ↔
        ':' ∉ version.toList)) := by
  refine ⟨?_, ?_, ?_, ?_⟩
  · intro s arn h
    exact toText_of_fromStr h
  · intro arn h
    exact fromStr_toText_iff.2 h
  · intro s arn h
    apply fromStr_toText_iff.2
    exact (colonFree_of_fromStr h).withoutVersion
  · intro s arn version h
    rw [fromStr_toText_iff]
    exact (colonFree_of_fromStr h).withVersion_iff

/-- The ARN of the samples. -/
def sampleArn : LambdaFunctionArn :=
  { partition := "aws", region := "eu-west-1", accountId := "200000000000",
    functionName := "orders", version := none }

theorem fromStr_sampleArn :
    fromStr "arn:aws:lambda:eu-west-1:200000000000:function:orders" = .ok sampleArn := by
  rfl

theorem sampleArn_colonFree : ColonFree sampleArn := colonFree_of_fromStr fromStr_sampleArn

/-- A new version with a colon: the text does not parse. -/
theorem withVersion_colon :
    fromStr "arn:aws:lambda:eu-west-1:200000000000:function:orders" = .ok sampleArn ∧
    fromStr (sampleArn.withVersion "7:a").toText =
      .error (.invalidLambdaFunctionArn
        "arn:aws:lambda:eu-west-1:200000000000:function:orders:7:a") := by
  refine ⟨fromStr_sampleArn, ?_⟩
  rfl

theorem arn_roundTrip_orders :
    sampleArn.toText = "arn:aws:lambda:eu-west-1:200000000000:function:orders" ∧
    fromStr sampleArn.toText = .ok sampleArn ∧
    fromStr sampleArn.withoutVersion.toText = .ok sampleArn.withoutVersion ∧
    fromStr (sampleArn.withVersion "$LATEST").toText = .ok (sampleArn.withVersion "$LATEST") :=
  ⟨arn_roundTrip.1 _ _ fromStr_sampleArn, arn_roundTrip.2.1 _ sampleArn_colonFree,
    arn_roundTrip.2.2.1 _ _ fromStr_sampleArn,
    (arn_roundTrip.2.2.2 _ _ "$LATEST" fromStr_sampleArn).2 (by decide)⟩

end TelemetryExporter
