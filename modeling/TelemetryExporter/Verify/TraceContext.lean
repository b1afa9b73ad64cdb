import TelemetryExporter.Lib.Pattern
import TelemetryExporter.Model.Service

/-!
# X-Ray contexts

Every header that X-Ray writes, also without leading zeros, is read back as the ids it was written
from, and whatever is read has ids of the right size. The code's regular expression is an instance of
the patterns of the library, with their leftmost-first semantics.
-/

namespace TelemetryExporter

open Pattern

/-! ## The regular expression -/

/-- `Root=1-([0-9a-f]{0,8})-([0-9a-f]{0,24});Parent=([0-9a-f]{0,16});Sampled=([0-1])?`. -/
def traceContextPattern : Pattern :=
  [.literal "Root=1-".toList, .upTo 8 isLowerHex, .literal "-".toList, .upTo 24 isLowerHex,
    .literal ";Parent=".toList, .upTo 16 isLowerHex, .literal ";Sampled=".toList,
    .optional fun c => c = '0' ∨ c = '1']

/-- The four groups. -/
def traceContextGroups (groups : List Char × List Char × List Char × Option Char) : Captures :=
  [some groups.1, some groups.2.1, some groups.2.2.1, groups.2.2.2.map fun c => [c]]

/-- What a group takes, and what it leaves. -/
theorem takeLowerHex_eq (n : Nat) (s : List Char) :
    takeLowerHex n s = ((s.take n).takeWhile isLowerHex,
      s.drop ((s.take n).takeWhile isLowerHex).length) := by
  induction n generalizing s with
  | zero => cases s <;> rfl
  | succ n ih =>
    cases s with
    | nil => rfl
    | cons c rest =>
      simp only [takeLowerHex, List.take_succ_cons, List.takeWhile_cons]
      split
      · rw [ih]
        rfl
      · rfl

theorem ways_dropLiteral (literal : String) (rest : Pattern) (s : List Char) :
    (ways (.literal literal.toList :: rest) s).head? =
      (dropLiteral literal s).bind fun s => (ways rest s).head? := by
  rw [ways_literal, dropLiteral]
  split <;> rfl

/-- A group before a literal that cannot start with a digit. -/
theorem ways_takeLowerHex {literal : String} {c : Char} {text : List Char}
    (hliteral : literal.toList = c :: text) (hc : isLowerHex c = false) (n : Nat) (rest : Pattern)
    (s : List Char) :
    (ways (.upTo n isLowerHex :: .literal literal.toList :: rest) s).head? =
      ((dropLiteral literal (takeLowerHex n s).2).bind fun s => (ways rest s).head?).map
        fun captures => some (takeLowerHex n s).1 :: captures := by
  rw [← ways_dropLiteral, takeLowerHex_eq, hliteral, ways_upTo_literal hc, List.head?_map]

theorem ways_traceContextPattern (s : List Char) :
    (ways traceContextPattern s).head? = (matchTraceContext s).map traceContextGroups := by
  have dash (n : Nat) := @ways_takeLowerHex "-" _ _ rfl (by decide) n
  have parent (n : Nat) := @ways_takeLowerHex ";Parent=" _ _ rfl (by decide) n
  have sampled (n : Nat) := @ways_takeLowerHex ";Sampled=" _ _ rfl (by decide) n
  simp only [traceContextPattern, ways_dropLiteral, dash, parent, sampled, ways_optional_last,
    matchTraceContext, Option.bind_eq_bind]
  cases dropLiteral "Root=1-" s with
  | none => rfl
  | some s =>
    cases hroot : dropLiteral "-" (takeLowerHex 8 s).2 with
    | none => simp [hroot]
    | some s' =>
      cases hparent : dropLiteral ";Parent=" (takeLowerHex 24 s').2 with
      | none => simp [hroot, hparent]
      | some s'' =>
        cases hsampled : dropLiteral ";Sampled=" (takeLowerHex 16 s'').2 with
        | none => simp [hroot, hparent, hsampled]
        | some left => simp [hroot, hparent, hsampled, traceContextGroups]

/-- `RE.captures` is the leftmost match, and there the preferred one. -/
theorem captureTraceContext_eq (s : List Char) :
    Pattern.find traceContextPattern s = (captureTraceContext s).map traceContextGroups := by
  unfold Pattern.find captureTraceContext
  simp only [ways_traceContextPattern]
  induction s.tails with
  | nil => rfl
  | cons t tails ih =>
    simp only [List.findSome?_cons]
    cases matchTraceContext t with
    | none => exact ih
    | some groups => rfl

/-! ## Hexadecimal digits -/

/-- The digits of `hex::encode`. -/
def hexChars (bytes : Bytes) : List Char := (hexEncode bytes).toList

theorem hexChars_cons (b : UInt8) (bytes : Bytes) :
    hexChars (b :: bytes) =
      Nat.digitChar (b.toNat / 16) :: Nat.digitChar (b.toNat % 16) :: hexChars bytes := by
  simp [hexChars, hexEncode]

theorem hexChars_length (bytes : Bytes) : (hexChars bytes).length = 2 * bytes.length := by
  induction bytes with
  | nil => rfl
  | cons b bytes ih =>
    rw [hexChars_cons, List.length_cons, List.length_cons, List.length_cons, ih]
    omega

theorem digitChar_lowerHex : ∀ d < 16, isLowerHex (Nat.digitChar d) = true := by decide

theorem hexDigit_digitChar : ∀ d < 16, hexDigit (Nat.digitChar d) = some d := by decide

theorem hexChars_lowerHex (bytes : Bytes) : ∀ c ∈ hexChars bytes, isLowerHex c = true := by
  induction bytes with
  | nil => exact fun c hc => absurd hc List.not_mem_nil
  | cons b bytes ih =>
    have hb := b.toNat_lt
    intro c hc
    rw [hexChars_cons] at hc
    rcases List.mem_cons.1 hc with rfl | hc
    · exact digitChar_lowerHex _ (by omega)
    · rcases List.mem_cons.1 hc with rfl | hc
      · exact digitChar_lowerHex _ (by omega)
      · exact ih c hc

/-- Decoding inverts encoding. -/
theorem hexDecodeChars_hexChars (bytes : Bytes) : hexDecodeChars (hexChars bytes) = some bytes := by
  induction bytes with
  | nil => rfl
  | cons b bytes ih =>
    have hb := b.toNat_lt
    have hbyte : UInt8.ofNat (16 * (b.toNat / 16) + b.toNat % 16) = b := by
      rw [Nat.div_add_mod, UInt8.ofNat_toNat]
    rw [hexChars_cons, hexDecodeChars, hexDigit_digitChar _ (by omega),
      hexDigit_digitChar _ (by omega), ih]
    simp only [Option.bind_eq_bind, Option.bind_some, hbyte]
    rfl

theorem hexDigit_lowerHex {c : Char} (hc : isLowerHex c = true) : ∃ d, hexDigit c = some d := by
  simp only [isLowerHex, Bool.or_eq_true, Bool.and_eq_true, decide_eq_true_eq] at hc
  unfold hexDigit
  rcases hc with hc | hc
  · rw [if_pos hc]
    exact ⟨_, rfl⟩
  · split
    · exact ⟨_, rfl⟩
    · exact ⟨_, rfl⟩

/-- An even number of digits is decoded to half as many bytes. -/
theorem hexDecodeChars_lowerHex {n : Nat} {s : List Char} (hs : ∀ c ∈ s, isLowerHex c = true)
    (hn : s.length = 2 * n) : ∃ bytes, hexDecodeChars s = some bytes ∧ bytes.length = n := by
  induction n generalizing s with
  | zero =>
    have hnil : s = [] := List.length_eq_zero_iff.1 hn
    rw [hnil]
    exact ⟨[], rfl, rfl⟩
  | succ n ih =>
    match s, hs, hn with
    | hi :: lo :: rest, hs, hn =>
      obtain ⟨h, hh⟩ := hexDigit_lowerHex (hs hi (by simp))
      obtain ⟨l, hl⟩ := hexDigit_lowerHex (hs lo (by simp))
      have hrest : rest.length = 2 * n := by
        simp only [List.length_cons] at hn
        omega
      obtain ⟨bytes, hbytes, hlength⟩ := ih (fun c hc => hs c (by simp [hc])) hrest
      refine ⟨UInt8.ofNat (16 * h + l) :: bytes, ?_, by rw [List.length_cons, hlength]⟩
      rw [hexDecodeChars, hh, hl, hbytes]
      rfl

/-- `decode_hex` succeeds for at most as many digits as it expects. -/
theorem decodeHex_lowerHex {n : Nat} {s : List Char} (hs : ∀ c ∈ s, isLowerHex c = true)
    (hn : s.length ≤ 2 * n) : ∃ bytes, decodeHex s (2 * n) = some bytes ∧ bytes.length = n := by
  unfold decodeHex
  split
  · exact hexDecodeChars_lowerHex hs (by omega)
  · refine hexDecodeChars_lowerHex (fun c hc => ?_) ?_
    · rcases List.mem_append.1 hc with hc | hc
      · rw [List.eq_of_mem_replicate hc]
        decide
      · exact hs c hc
    · rw [List.length_append, List.length_replicate]
      omega

/-- The digits, some of the leading zeros dropped. -/
def DropsZeros (digits dropped : List Char) : Prop :=
  ∃ k, digits = List.replicate k '0' ++ dropped

/-- `decode_hex` restores leading zeros. -/
theorem decodeHex_dropsZeros {bytes : Bytes} {digits : List Char}
    (h : DropsZeros (hexChars bytes) digits) :
    decodeHex digits (2 * bytes.length) = some bytes := by
  obtain ⟨k, hk⟩ := h
  have hlength : 2 * bytes.length = k + digits.length := by
    rw [← hexChars_length, hk, List.length_append, List.length_replicate]
  unfold decodeHex
  rw [hlength]
  split
  · have hzero : k = 0 := by omega
    rw [hzero, List.replicate_zero, List.nil_append] at hk
    rw [← hk, hexDecodeChars_hexChars]
  · rw [Nat.add_sub_cancel, ← hk, hexDecodeChars_hexChars]

/-! ## Parsing what was written -/

/-- A header with these digits, and a suffix. -/
def renderTraceContext (root1 root2 parent : List Char) (sampled : Bool) (suffix : List Char) :
    List Char :=
  "Root=1-".toList ++ (root1 ++ ("-".toList ++ (root2 ++ (";Parent=".toList ++ (parent ++
    (";Sampled=".toList ++ ((if sampled then '1' else '0') :: suffix)))))))

theorem dropLiteral_append (literal : String) (s : List Char) :
    dropLiteral literal (literal.toList ++ s) = some s := by
  rw [dropLiteral, if_pos (List.prefix_append _ _), List.drop_left]

/-- A group takes its digits, up to the literal after it. -/
theorem takeLowerHex_append {n : Nat} {digits s : List Char} {literal : String} {c : Char}
    {text : List Char} (hdigits : ∀ c ∈ digits, isLowerHex c = true) (hn : digits.length ≤ n)
    (hliteral : literal.toList = c :: text) (hc : isLowerHex c = false) :
    takeLowerHex n (digits ++ (literal.toList ++ s)) = (digits, literal.toList ++ s) := by
  induction digits generalizing n with
  | nil =>
    rw [hliteral, List.nil_append, List.cons_append]
    cases n with
    | zero => rfl
    | succ n =>
      rw [takeLowerHex, hc]
      rfl
  | cons d digits ih =>
    cases n with
    | zero => exact absurd hn (Nat.not_succ_le_zero _)
    | succ n =>
      have hd : isLowerHex d = true := hdigits d List.mem_cons_self
      have hrest := ih (fun c hc => hdigits c (List.mem_cons_of_mem d hc))
        (Nat.le_of_succ_le_succ hn)
      rw [List.cons_append, takeLowerHex, if_pos hd, hrest]

theorem matchTraceContext_render {root1 root2 parent suffix : List Char} {sampled : Bool}
    (hroot1 : ∀ c ∈ root1, isLowerHex c = true) (hroot2 : ∀ c ∈ root2, isLowerHex c = true)
    (hparent : ∀ c ∈ parent, isLowerHex c = true) (hn1 : root1.length ≤ 8)
    (hn2 : root2.length ≤ 24) (hn3 : parent.length ≤ 16) :
    matchTraceContext (renderTraceContext root1 root2 parent sampled suffix) =
      some (root1, root2, parent, some (if sampled then '1' else '0')) := by
  have dash (s : List Char) :=
    @takeLowerHex_append 8 root1 s "-" '-' [] hroot1 hn1 rfl (by decide)
  have parentKey (s : List Char) :=
    @takeLowerHex_append 24 root2 s ";Parent=" ';' "Parent=".toList hroot2 hn2 rfl (by decide)
  have sampledKey (s : List Char) :=
    @takeLowerHex_append 16 parent s ";Sampled=" ';' "Sampled=".toList hparent hn3 rfl (by decide)
  unfold matchTraceContext renderTraceContext
  rw [dropLiteral_append]
  simp only [Option.bind_eq_bind, Option.bind_some]
  rw [dash]
  dsimp only
  rw [dropLiteral_append, Option.bind_some, parentKey]
  dsimp only
  rw [dropLiteral_append, Option.bind_some, sampledKey]
  dsimp only
  rw [dropLiteral_append, Option.bind_some]
  cases sampled <;> rfl

theorem captureTraceContext_of_match {s : List Char}
    {groups : List Char × List Char × List Char × Option Char}
    (h : matchTraceContext s = some groups) : captureTraceContext s = some groups := by
  unfold captureTraceContext
  cases s with
  | nil => cases h
  | cons c s => rw [List.tails, List.findSome?_cons, h]

/-- What `try_from` makes of digits without some of the leading zeros. -/
theorem tryFrom_render {root parent : Bytes} {root1 root2 parentDigits suffix : List Char}
    {sampled : Bool} (hroot : root.length = 16) (hparent : parent.length = 8)
    (h1 : DropsZeros (hexChars (root.take 4)) root1)
    (h2 : DropsZeros (hexChars (root.drop 4)) root2)
    (h3 : DropsZeros (hexChars parent) parentDigits) :
    XRayTraceContext.tryFrom
        (String.ofList (renderTraceContext root1 root2 parentDigits sampled suffix)) =
      some { root, parent, sampled } := by
  have hlen1 : (root.take 4).length = 4 := by
    rw [List.length_take]
    omega
  have hlen2 : (root.drop 4).length = 12 := by
    rw [List.length_drop]
    omega
  have digits {bytes : Bytes} {dropped : List Char} (h : DropsZeros (hexChars bytes) dropped) :
      (∀ c ∈ dropped, isLowerHex c = true) ∧ dropped.length ≤ 2 * bytes.length := by
    obtain ⟨k, hk⟩ := h
    refine ⟨fun c hc => ?_, ?_⟩
    · refine hexChars_lowerHex bytes c ?_
      rw [hk]
      exact List.mem_append_right _ hc
    · rw [← hexChars_length, hk, List.length_append]
      omega
  obtain ⟨hhex1, hn1⟩ := digits h1
  obtain ⟨hhex2, hn2⟩ := digits h2
  obtain ⟨hhex3, hn3⟩ := digits h3
  have hdecode1 := decodeHex_dropsZeros h1
  have hdecode2 := decodeHex_dropsZeros h2
  have hdecode3 := decodeHex_dropsZeros h3
  rw [hlen1] at hn1 hdecode1
  rw [hlen2] at hn2 hdecode2
  rw [hparent] at hn3 hdecode3
  have hmatch := captureTraceContext_of_match (@matchTraceContext_render root1 root2 parentDigits
    suffix sampled hhex1 hhex2 hhex3 hn1 hn2 hn3)
  unfold XRayTraceContext.tryFrom
  rw [String.toList_ofList, hmatch]
  simp only [Nat.reduceMul] at hdecode1 hdecode2 hdecode3
  simp only [hdecode1, hdecode2, hdecode3, Option.bind_eq_bind, Option.bind_some,
    List.take_append_drop]
  cases sampled <;> rfl

/-! ## Parsing anything -/

theorem takeLowerHex_spec (n : Nat) (s : List Char) :
    (∀ c ∈ (takeLowerHex n s).1, isLowerHex c = true) ∧ (takeLowerHex n s).1.length ≤ n := by
  rw [takeLowerHex_eq]
  refine ⟨fun c hc => List.mem_takeWhile_imp hc, ?_⟩
  have hle := (List.takeWhile_prefix isLowerHex (l := s.take n)).length_le
  rw [List.length_take] at hle
  exact hle.trans (min_le_left n s.length)

/-- Hex decoding succeeds for the groups of a match, and gives ids of the right size. -/
theorem decodeHex_of_capture {s root1 root2 parent : List Char} {sampled : Option Char}
    (h : captureTraceContext s = some (root1, root2, parent, sampled)) :
    ∃ root1Bytes root2Bytes parentBytes, decodeHex root1 8 = some root1Bytes ∧
      decodeHex root2 24 = some root2Bytes ∧ decodeHex parent 16 = some parentBytes ∧
      (root1Bytes ++ root2Bytes).length = 16 ∧ parentBytes.length = 8 := by
  obtain ⟨t, -, hmatch⟩ := List.exists_of_findSome?_eq_some h
  simp only [matchTraceContext, Option.bind_eq_bind, Option.bind_eq_some_iff, Option.pure_def,
    Option.some.injEq, Prod.mk.injEq] at hmatch
  obtain ⟨t1, -, t2, -, t3, -, t4, -, rfl, rfl, rfl, -⟩ := hmatch
  obtain ⟨hhex1, hn1⟩ := takeLowerHex_spec 8 t1
  obtain ⟨hhex2, hn2⟩ := takeLowerHex_spec 24 t2
  obtain ⟨hhex3, hn3⟩ := takeLowerHex_spec 16 t3
  obtain ⟨b1, hb1, hlen1⟩ := @decodeHex_lowerHex 4 _ hhex1 hn1
  obtain ⟨b2, hb2, hlen2⟩ := @decodeHex_lowerHex 12 _ hhex2 hn2
  obtain ⟨b3, hb3, hlen3⟩ := @decodeHex_lowerHex 8 _ hhex3 hn3
  refine ⟨b1, b2, b3, hb1, hb2, hb3, ?_, hlen3⟩
  rw [List.length_append, hlen1, hlen2]

theorem tryFrom_sizes {s : String} {xray : XRayTraceContext}
    (h : XRayTraceContext.tryFrom s = some xray) : xray.root.length = 16 ∧ xray.parent.length = 8 := by
  unfold XRayTraceContext.tryFrom at h
  split at h
  · next hcapture =>
    obtain ⟨b1, b2, b3, hb1, hb2, hb3, hroot, hparent⟩ := decodeHex_of_capture hcapture
    simp only [hb1, hb2, hb3, Option.bind_eq_bind, Option.bind_some] at h
    cases h
    exact ⟨hroot, hparent⟩
  · cases h

theorem randomBytes_length [External] (n : Nat) (rng : Rng) : (randomBytes n rng).1.length = n := by
  rw [randomBytes, List.length_map, List.length_range]

/-- The ids of an invocation have the right size, also if they are random. -/
theorem invocationContext_sizes [External] {invokeEvent : InvokeEventDataWithSpans} {rng : Rng}
    {arn : LambdaFunctionArn}
    (harn : LambdaFunctionArn.fromStr invokeEvent.invokedFunctionArn = .ok arn) :
    ∃ context, (InvocationContext.tryFrom invokeEvent rng).1 = .ok context ∧
      context.traceId.length = 16 ∧ context.invocationSpanId.length = 8 := by
  unfold InvocationContext.tryFrom
  rw [harn]
  cases hxray : XRayTraceContext.tryFrom invokeEvent.tracing.value with
  | some xray => exact ⟨_, rfl, tryFrom_sizes hxray⟩
  | none => exact ⟨_, rfl, randomBytes_length 16 rng, randomBytes_length 8 (randomTraceId rng).2⟩

/-- Every header with these ids is parsed to them, whatever follows the flag and however many leading
zeros each of the three fields lacks. Every header that is parsed has ids of the right size, and
decoding the groups of a match never fails. So have the contexts of all invocations. -/
theorem trace_context_parsed [External] :
    (∀ (root parent : Bytes) (sampled : Bool) (root1 root2 parentDigits suffix : List Char),
      root.length = 16 → parent.length = 8 → DropsZeros (hexChars (root.take 4)) root1 →
      DropsZeros (hexChars (root.drop 4)) root2 → DropsZeros (hexChars parent) parentDigits →
      XRayTraceContext.tryFrom
          (String.ofList (renderTraceContext root1 root2 parentDigits sampled suffix)) =
        some { root, parent, sampled }) ∧
    (∀ s : String,
      (∀ root1 root2 parent sampled,
        captureTraceContext s.toList = some (root1, root2, parent, sampled) →
        (decodeHex root1 8).isSome ∧ (decodeHex root2 24).isSome ∧ (decodeHex parent 16).isSome) ∧
      ∀ xray, XRayTraceContext.tryFrom s = some xray →
        xray.root.length = 16 ∧ xray.parent.length = 8) ∧
    ∀ (invokeEvent : InvokeEventDataWithSpans) (rng : Rng) (arn : LambdaFunctionArn),
      LambdaFunctionArn.fromStr invokeEvent.invokedFunctionArn = .ok arn →
      ∃ context, (InvocationContext.tryFrom invokeEvent rng).1 = .ok context ∧
        context.traceId.length = 16 ∧ context.invocationSpanId.length = 8 := by
  refine ⟨?_, fun s => ⟨?_, fun xray => tryFrom_sizes⟩, fun invokeEvent rng arn => ?_⟩
  · intro root parent sampled root1 root2 parentDigits suffix hroot hparent h1 h2 h3
    exact tryFrom_render hroot hparent h1 h2 h3
  · intro root1 root2 parent sampled hcapture
    obtain ⟨b1, b2, b3, hb1, hb2, hb3, -⟩ := decodeHex_of_capture hcapture
    rw [hb1, hb2, hb3]
    exact ⟨rfl, rfl, rfl⟩
  · exact invocationContext_sizes

/-- The trace id of a header that lacks leading zeros. -/
def sampleRoot : Bytes :=
  [0x00, 0xa8, 0x86, 0xf2, 0x05, 0x32, 0xb2, 0xc0, 0xdb, 0xc8, 0x4c, 0xbe, 0x0b, 0x43, 0xf3, 0x3b]

/-- The parent id of this header. -/
def sampleParent : Bytes := [0x09, 0x7f, 0x84, 0x5c, 0x02, 0x71, 0xe5, 0xc9]

theorem trace_context_parsed_less_characters :
    XRayTraceContext.tryFrom (String.ofList (renderTraceContext "a886f2".toList
        "532b2c0dbc84cbe0b43f33b".toList "97f845c0271e5c9".toList true ";Lineage=81c4d629:0".toList)) =
      some { root := sampleRoot, parent := sampleParent, sampled := true } :=
  (@trace_context_parsed sampleExternal).1 sampleRoot sampleParent true _ _ _ _ rfl rfl
    ⟨2, by decide +kernel⟩ ⟨1, by decide +kernel⟩ ⟨1, by decide +kernel⟩

end TelemetryExporter
