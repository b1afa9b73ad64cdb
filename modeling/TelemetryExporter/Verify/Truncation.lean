import Mathlib.Algebra.Group.Int.Defs
import Mathlib.Algebra.Group.Nat.Defs
import Mathlib.Data.String.Basic
import TelemetryExporter.Model.LogProcessor

/-!
# Truncation of messages

`truncate` finds the last character boundary within the limit. The difference of the two sizes is
taken of signed numbers, which is only right for limits below `2 ^ 63`.
-/

namespace TelemetryExporter

open String

/-! ## Character boundaries -/

theorem isCharBoundary_iff {cs : List Char} {n : Nat} :
    isCharBoundary cs n = true ↔ ∃ p, p <+: cs ∧ utf8Len p = n := by
  induction cs generalizing n with
  | nil =>
    cases n with
    | zero => exact ⟨fun _ => ⟨[], List.nil_prefix, rfl⟩, fun _ => rfl⟩
    | succ n =>
      constructor
      · intro h
        cases h
      · rintro ⟨p, hp, hn⟩
        rw [List.prefix_nil.1 hp] at hn
        cases hn
  | cons c rest ih =>
    cases n with
    | zero => exact ⟨fun _ => ⟨[], List.nil_prefix, rfl⟩, fun _ => rfl⟩
    | succ n =>
      simp only [isCharBoundary, Bool.and_eq_true, decide_eq_true_eq, ih]
      constructor
      · rintro ⟨hle, p, hp, hn⟩
        refine ⟨c :: p, (List.prefix_cons_inj c).2 hp, ?_⟩
        rw [utf8Len_cons, hn]
        omega
      · rintro ⟨p, hp, hn⟩
        cases p with
        | nil => cases hn
        | cons d p =>
          obtain ⟨rfl, htail⟩ := List.cons_prefix_cons.1 hp
          rw [utf8Len_cons] at hn
          exact ⟨by omega, p, htail, by omega⟩

/-- The characters up to a boundary. -/
theorem takeBytes_utf8Len {p cs : List Char} (h : p <+: cs) : takeBytes cs (utf8Len p) = p := by
  induction p generalizing cs with
  | nil =>
    cases cs with
    | nil => rfl
    | cons c rest =>
      have hpos := Char.utf8Size_pos c
      rw [takeBytes, utf8Len_nil, if_neg (by omega)]
  | cons d p ih =>
    cases cs with
    | nil => exact absurd (List.prefix_nil.1 h) (List.cons_ne_nil d p)
    | cons c rest =>
      obtain ⟨rfl, htail⟩ := List.cons_prefix_cons.1 h
      rw [takeBytes, utf8Len_cons, if_pos (by omega), Nat.add_sub_cancel, ih htail]

theorem floorCharBoundary_le (cs : List Char) (n : Nat) : floorCharBoundary cs n ≤ n := by
  induction n with
  | zero => exact Nat.le_refl 0
  | succ n ih =>
    rw [floorCharBoundary]
    split
    · exact Nat.le_refl _
    · omega

/-- The loop stops at a boundary: at the latest at the beginning of the text. -/
theorem isCharBoundary_floor (cs : List Char) (n : Nat) :
    isCharBoundary cs (floorCharBoundary cs n) = true := by
  induction n with
  | zero => exact isCharBoundary_iff.2 ⟨[], List.nil_prefix, rfl⟩
  | succ n ih =>
    rw [floorCharBoundary]
    split
    · next h => exact h
    · exact ih

/-- The loop passes over no boundary. -/
theorem le_floorCharBoundary {cs : List Char} {m n : Nat} (hle : m ≤ n)
    (h : isCharBoundary cs m = true) : m ≤ floorCharBoundary cs n := by
  induction n with
  | zero => exact hle
  | succ n ih =>
    rw [floorCharBoundary]
    split
    · exact hle
    · next hn =>
      refine ih (Nat.le_of_lt_succ (Nat.lt_of_le_of_ne hle ?_))
      intro heq
      rw [heq] at h
      exact hn h

/-! ## Truncated messages -/

/-- The longest prefix of whole characters that fits into the limit. -/
structure IsLongestPrefix (text : String) (limit : Nat) (start : String) : Prop where
  isPrefix : start.toList <+: text.toList
  fits : start.utf8ByteSize ≤ limit
  longest : ∀ other : String, other.toList <+: text.toList → other.utf8ByteSize ≤ limit →
    other.utf8ByteSize ≤ start.utf8ByteSize

theorem truncate_isLongestPrefix {text : String} {limit : Nat} (h : limit < text.utf8ByteSize) :
    IsLongestPrefix text limit (truncate text limit) := by
  obtain ⟨p, hp, hsize⟩ := isCharBoundary_iff.1 (isCharBoundary_floor text.toList limit)
  have htruncate : truncate text limit = String.ofList p := by
    rw [truncate, if_neg (Nat.not_le_of_lt h), ← hsize, takeBytes_utf8Len hp]
  rw [htruncate]
  refine ⟨?_, ?_, ?_⟩
  · rwa [String.toList_ofList]
  · rw [utf8ByteSize_ofList, hsize]
    exact floorCharBoundary_le _ _
  · intro other hother hfits
    rw [utf8ByteSize_ofList, hsize]
    have hlen : utf8Len other.toList = other.utf8ByteSize := by
      rw [← utf8ByteSize_ofList, String.ofList_toList]
    refine le_floorCharBoundary hfits (isCharBoundary_iff.2 ⟨other.toList, hother, hlen⟩)

/-- The annotation of a message that is too long by so many bytes. -/
def truncationNote (overflow : Int) : String :=
  if overflow < 1000 then "...(" ++ toString overflow ++ "B truncated)..."
  else "...(" ++ toString (overflow / 1000) ++ "kB truncated)..."

theorem truncationNote_pos (overflow : Int) : 0 < (truncationNote overflow).utf8ByteSize := by
  have hdots : "...(".utf8ByteSize = 4 := rfl
  unfold truncationNote
  split
  · simp only [String.utf8ByteSize_append, hdots]
    omega
  · simp only [String.utf8ByteSize_append, hdots]
    omega

/-- What truncating a message should do, without an overflow of the difference of the sizes. -/
structure TruncatesWell (text : String) (limit : Nat) : Prop where
  noOverflow : -(2 ^ 63) ≤ asI64 text.utf8ByteSize - asI64 limit ∧
    asI64 text.utf8ByteSize - asI64 limit < 2 ^ 63
  onBoundary : isCharBoundary text.toList (floorCharBoundary text.toList limit) = true
  unchanged : text.utf8ByteSize ≤ limit → truncateWithAnnotationIfTooLong text limit = text
  truncated : limit < text.utf8ByteSize → ∃ start, IsLongestPrefix text limit start ∧
    truncateWithAnnotationIfTooLong text limit =
      start ++ truncationNote (text.utf8ByteSize - limit)

theorem asI64_of_lt {x : Int} (hle : -(2 ^ 63) ≤ x) (hlt : x < 2 ^ 63) : asI64 x = x := by
  unfold asI64 UInt64.size
  rw [Int.bmod_eq_of_le (by omega) (by omega)]

/-- A size from `2 ^ 63` on becomes negative. -/
theorem asI64_of_le {n : Nat} (hle : 2 ^ 63 ≤ n) (hlt : n < 2 ^ 64) : asI64 n = n - 2 ^ 64 := by
  have hsame : asI64 n = asI64 ((n : Int) - UInt64.size) := (Int.sub_bmod_right ..).symm
  have hsize : (UInt64.size : Int) = 2 ^ 64 := rfl
  rw [hsame, hsize, asI64_of_lt (by omega) (by omega)]

theorem truncateWithAnnotation_of_le {text : String} {limit : Nat} (h : text.utf8ByteSize ≤ limit)
    (hlimit : limit < 2 ^ 63) : truncateWithAnnotationIfTooLong text limit = text := by
  have hsize : asI64 text.utf8ByteSize = text.utf8ByteSize := asI64_of_lt (by omega) (by omega)
  have hlimit' : asI64 limit = limit := asI64_of_lt (by omega) (by omega)
  have hoverflow : asI64 (asI64 text.utf8ByteSize - asI64 limit) ≤ 0 := by
    rw [hsize, hlimit', asI64_of_lt (by omega) (by omega)]
    omega
  rw [truncateWithAnnotationIfTooLong]
  exact if_pos hoverflow

/-- A message whose size exceeds the limit, as signed numbers. -/
theorem truncateWithAnnotation_of_pos {text : String} {limit : Nat} {overflow : Int}
    (h : asI64 (asI64 text.utf8ByteSize - asI64 limit) = overflow) (hpos : 0 < overflow) :
    truncateWithAnnotationIfTooLong text limit =
      truncate text limit ++ truncationNote overflow := by
  rw [truncateWithAnnotationIfTooLong]
  simp only [h, truncationNote]
  rw [if_neg (by omega)]
  by_cases hbytes : overflow < 1000
  · rw [if_pos hbytes, if_pos hbytes]
    simp only [String.append_assoc]
  · rw [if_neg hbytes, if_neg hbytes]
    simp only [String.append_assoc]

/-- Messages are truncated as they should be exactly for limits below `2 ^ 63`. -/
theorem truncatesWell_iff {text : String} {limit : Nat} (htext : text.utf8ByteSize < 2 ^ 63)
    (hlimit : limit < 2 ^ 64) : TruncatesWell text limit ↔ limit < 2 ^ 63 := by
  have hsize : asI64 text.utf8ByteSize = text.utf8ByteSize := asI64_of_lt (by omega) (by omega)
  constructor
  · intro h
    by_contra hlarge
    have hnegative := asI64_of_le (Nat.le_of_not_lt hlarge) hlimit
    have hpos : (0 : Int) < text.utf8ByteSize - (limit - 2 ^ 64) := by omega
    have hunchanged := h.unchanged (by omega)
    have hover := h.noOverflow
    rw [hsize, hnegative] at hover
    have hsub : asI64 (asI64 text.utf8ByteSize - asI64 limit) =
        text.utf8ByteSize - (limit - 2 ^ 64) := by
      rw [hsize, hnegative, asI64_of_lt (by omega) (by omega)]
    rw [truncateWithAnnotation_of_pos hsub hpos, truncate, if_pos (by omega)] at hunchanged
    have hbytes := congrArg String.utf8ByteSize hunchanged
    rw [String.utf8ByteSize_append] at hbytes
    have hnote := truncationNote_pos (text.utf8ByteSize - (limit - 2 ^ 64))
    omega
  · intro h
    have hlimit' : asI64 limit = limit := asI64_of_lt (by omega) (by omega)
    refine ⟨?_, isCharBoundary_floor _ _, fun hle => truncateWithAnnotation_of_le hle h,
      fun hlt => ⟨_, truncate_isLongestPrefix hlt, ?_⟩⟩
    · rw [hsize, hlimit']
      omega
    · refine truncateWithAnnotation_of_pos ?_ (by omega)
      rw [hsize, hlimit', asI64_of_lt (by omega) (by omega)]

/-- A text that is cut inside a character of two bytes. -/
theorem truncatesWell_iff_cut :
    TruncatesWell "añb" 2 ∧
      truncateWithAnnotationIfTooLong "añb" 2 = "a...(2B truncated)..." :=
  ⟨(truncatesWell_iff (by decide) (by omega)).2 (by omega), by decide⟩

/-- With the largest limit a message of two bytes is annotated. -/
theorem maximal_limit_annotates : ¬ TruncatesWell "hi" (2 ^ 64 - 1) := by
  intro h
  have hunchanged := h.unchanged (by decide)
  revert hunchanged
  decide

end TelemetryExporter
