/-
ForensicData.Persistence.StoredTextTheorems — the texts the boundary takes.

A text is canonical for a field when it is the text of a value decoded under
it. The boundary takes these texts and no others
(`requireCanonicalEvidenceValue_eq_ok`): read again, the text of a decoded
value has the payload the value was decoded from.
-/
import Mathlib.Data.List.TakeWhile
import ForensicData.Canonical.RowTheorems
import ForensicData.Persistence.EvidenceBoundary

namespace ForensicData.Persistence

open ForensicData.Canonical
open ForensicData.Comparison
open ForensicData.Contracts
open ForensicData.Lib
open ForensicData.Reporting
open Json (renderInt)

/-! ## Decimal texts -/

/-- The digits of a decimal text, without the point. -/
def decimalDigits (magnitude scale : ℕ) : List Char :=
  Nat.toDigits 10 (magnitude / 10 ^ scale) ++ fixedDigits 10 scale magnitude

theorem fixedDigits_mod (base width n : ℕ) :
    fixedDigits base width (n % base ^ width) = fixedDigits base width n := by
  induction width generalizing n with
  | zero => rfl
  | succ width ih =>
    have hdiv : n % base ^ (width + 1) / base = n / base % base ^ width := by
      rw [pow_succ, Nat.mul_comm, Nat.mod_mul_right_div_self]
    have hmod : n % base ^ (width + 1) % base = n % base := by
      rw [pow_succ, Nat.mul_comm]
      exact Nat.mod_mul_right_mod n base _
    rw [fixedDigits, fixedDigits, hdiv, hmod, ih]

theorem digitsValue_decimalDigits (magnitude scale : ℕ) :
    digitsValue 10 (decimalDigits magnitude scale) = magnitude := by
  rw [decimalDigits, digitsValue_append, digitsValue_toDigits, length_fixedDigits,
    ← fixedDigits_mod, digitsValue_fixedDigits (by omega) (by omega)
      (Nat.mod_lt _ (Nat.pow_pos (by omega)))]
  exact Nat.div_add_mod' magnitude (10 ^ scale)

/-- The text after the sign. -/
def unsignedDecimalText (magnitude scale : ℕ) : List Char :=
  Nat.toDigits 10 (magnitude / 10 ^ scale) ++
    if scale = 0 then [] else '.' :: fixedDigits 10 scale magnitude

theorem readMantissa_decimal (magnitude scale : ℕ) :
    readMantissa (unsignedDecimalText magnitude scale)
      = some ((decimalDigits magnitude scale, scale), []) := by
  have hwhole : ∀ c ∈ Nat.toDigits 10 (magnitude / 10 ^ scale), isDigitOf 10 c = true :=
    fun _ => isDigitOf_of_mem_toDigits
  have hne : Nat.toDigits 10 (magnitude / 10 ^ scale) ≠ [] := Nat.toDigits_ne_nil
  have hcut : ∀ rest : List Char, (∀ c ∈ rest.head?, isDigitOf 10 c = false) →
      (Nat.toDigits 10 (magnitude / 10 ^ scale) ++ rest).takeWhile (isDigitOf 10)
          = Nat.toDigits 10 (magnitude / 10 ^ scale) ∧
        (Nat.toDigits 10 (magnitude / 10 ^ scale) ++ rest).dropWhile (isDigitOf 10) = rest := by
    intro rest hrest
    rw [List.takeWhile_append_of_pos hwhole, List.dropWhile_append_of_pos hwhole]
    cases rest with
    | nil => simp
    | cons c rest => simp [hrest c rfl]
  unfold unsignedDecimalText decimalDigits
  by_cases hscale : scale = 0
  · subst hscale
    obtain ⟨htake, hdrop⟩ := hcut [] (by simp)
    rw [if_pos rfl, readMantissa, htake, hdrop]
    simp only
    rw [if_neg hne, fixedDigits, List.append_nil]
  · have hfraction : ∀ c ∈ fixedDigits 10 scale magnitude, isDigitOf 10 c = true :=
      fun _ hc => isDigitOf_of_mem_fixedDigits (by omega) (by omega) hc
    obtain ⟨htake, hdrop⟩ := hcut ('.' :: fixedDigits 10 scale magnitude) (by simp; decide)
    rw [if_neg hscale, readMantissa, htake, hdrop]
    simp only
    have htakeFraction : (fixedDigits 10 scale magnitude).takeWhile (isDigitOf 10)
        = fixedDigits 10 scale magnitude := List.takeWhile_eq_self_iff.mpr hfraction
    have hdropFraction : (fixedDigits 10 scale magnitude).dropWhile (isDigitOf 10) = [] :=
      List.dropWhile_eq_nil_iff.mpr hfraction
    rw [htakeFraction, hdropFraction, if_neg fun h => hne h.1, length_fixedDigits]

theorem readDecimalNumeral_decimalText (coefficient : Int) (scale : ℕ) :
    readDecimalNumeral (decimalText coefficient scale) =
      some { negative := decide (coefficient < 0)
             digits := decimalDigits coefficient.natAbs scale, exponent := -(scale : Int) } := by
  have hmantissa := readMantissa_decimal coefficient.natAbs scale
  have hsign : readSign (decimalText coefficient scale) =
      (decide (coefficient < 0), unsignedDecimalText coefficient.natAbs scale) := by
    change readSign (if coefficient < 0 then '-' :: unsignedDecimalText coefficient.natAbs scale
      else unsignedDecimalText coefficient.natAbs scale) = _
    by_cases hnegative : coefficient < 0
    · rw [if_pos hnegative, decide_eq_true hnegative]
      rfl
    · rw [if_neg hnegative, decide_eq_false hnegative]
      obtain ⟨c, cs, hcs, hminus⟩ := toDigits_eq_cons (coefficient.natAbs / 10 ^ scale)
      have hdigit : isDigitOf 10 c = true := isDigitOf_of_mem_toDigits (hcs ▸ List.mem_cons_self)
      unfold unsignedDecimalText
      rw [hcs, List.cons_append]
      unfold readSign
      split
      · rename_i h
        exact absurd (List.cons.inj h).1 hminus
      · rename_i h
        rw [(List.cons.inj h).1] at hdigit
        exact absurd hdigit (by decide)
      · rfl
  unfold readDecimalNumeral
  rw [hsign]
  simp only [hmantissa, Option.bind_some, readExponent, Option.map_some, Int.zero_sub]

/-- The text of a decimal denotes its number. -/
theorem asNumber_decimalText {coefficient : Int} {scale : ℕ}
    (hcoefficient : coefficient.natAbs < 10 ^ 38) (hscale : scale ≤ 38) :
    (CanonicalInput.text (codePoints (decimalText coefficient scale))).asNumber =
      (DecodedValue.decimal coefficient scale).toInput.asNumber := by
  have hlength : (Nat.toDigits 10 coefficient.natAbs).length ≤ 38 :=
    (Nat.length_toDigits_le_iff (by omega) (by omega)).mpr hcoefficient
  have hpos : 0 < (Nat.toDigits 10 coefficient.natAbs).length :=
    List.length_pos_iff.mpr Nat.toDigits_ne_nil
  simp only [CanonicalInput.asNumber, scalars_eq_some.mpr rfl, Option.bind_some,
    readDecimalNumeral_decimalText, DecimalNumeral.decimal, digitsValue_decimalDigits,
    DecodedValue.toInput]
  rw [if_pos]
  · rfl
  · unfold decimalMaxEmax decimalMinEtiny
    omega

/-! ## Canonical texts -/

/-- The text of a value that is decoded under the field. -/
def IsCanonicalText (field : FieldSchema) (text : String) : Prop :=
  ∃ payload decoded, decodePayload field payload = .ok decoded ∧
    text = canonicalDecodedText decoded

theorem length_toDigits_int64 {value : Int} (h : IsInt64 value) :
    (Nat.toDigits 10 value.natAbs).length ≤ intMaxStrDigits := by
  obtain ⟨hlow, hhigh⟩ := h
  unfold int64Min at hlow
  unfold int64Max at hhigh
  have hlt : value.natAbs < 10 ^ 19 := by omega
  have hlength := (Nat.length_toDigits_le_iff (by omega) (by omega)).mpr hlt
  unfold intMaxStrDigits
  omega

/-- The text of a decoded value stands for an input with the same payload. -/
theorem storedCandidate_of_decoded {field : FieldSchema} {payload : Bytes} {decoded : DecodedValue}
    (h : decodePayload field payload = .ok decoded) :
    ∃ candidate, storedCandidate field.logicalType (canonicalDecodedText decoded) = .ok candidate ∧
      encodePayload field candidate = .ok payload := by
  obtain ⟨logical, hrenders, hdecodes⟩ := decodePayload_eq_ok.mp h
  have hinput := denotes_toInput hrenders hdecodes
  have hencode : ∀ candidate, denotes field candidate = some logical →
      encodePayload field candidate = .ok payload :=
    fun candidate hcandidate => encodePayload_eq_ok.mpr ⟨logical, hcandidate, hrenders⟩
  obtain ⟨name, logicalType, nullable, parameters, normalization, fits⟩ := field
  cases logicalType with
  | int64 =>
    cases logical with
    | integer n =>
      obtain rfl : decoded = .integer n := hdecodes
      refine ⟨.integer n, ?_, hencode _ rfl⟩
      have hread : readPythonInt (renderInt n) = some n :=
        readPythonInt_renderInt (length_toDigits_int64 hrenders.1)
      simp only [storedCandidate, canonicalDecodedText, String.toList_ofList, hread]
    | _ => exact hrenders.elim
  | decimal =>
    cases parameters with
    | decimal parameters =>
      cases logical with
      | decimal q =>
        obtain ⟨unscaled, hunscaled, rfl⟩ := hdecodes
        refine ⟨.text (codePoints (decimalText unscaled parameters.scale)), ?_, hencode _ ?_⟩
        · simp only [storedCandidate, canonicalDecodedText, String.toList_ofList]
        · have hbound : unscaled.natAbs < 10 ^ 38 :=
            lt_of_lt_of_le hunscaled.2 (Nat.pow_le_pow_right (by omega) parameters.precision_le)
          have hscale := le_trans parameters.scale_le parameters.precision_le
          simp only [denotes, asNumber_decimalText hbound hscale] at hinput ⊢
          exact hinput
      | _ => exact hrenders.elim
    | _ => cases fits
  | boolean =>
    cases logical with
    | boolean b =>
      obtain rfl : decoded = .boolean b := hdecodes
      refine ⟨.boolean b, ?_, hencode _ rfl⟩
      cases b <;> rfl
    | _ => exact hrenders.elim
  | string =>
    cases logical with
    | text points =>
      obtain ⟨text, rfl, rfl⟩ := hdecodes
      exact ⟨_, rfl, hencode _ rfl⟩
    | _ => exact hrenders.elim
  | date =>
    cases logical with
    | date d =>
      obtain rfl : decoded = .date d := hdecodes
      refine ⟨.text (codePoints (formatDate d)), ?_, hencode _ ?_⟩
      · simp only [storedCandidate, canonicalDecodedText, String.toList_ofList]
      · simp only [denotes, asDate_text.mpr rfl, Option.map_some]
    | _ => exact hrenders.elim
  | timestampLocal =>
    cases parameters with
    | timestamp parameters =>
      cases logical with
      | localTime moment =>
        obtain rfl : decoded = .text (String.ofList (moment.text parameters.precision)) := hdecodes
        exact ⟨_, rfl, hencode _ hinput⟩
      | _ => exact hrenders.elim
    | _ => cases fits
  | timestampInstant =>
    cases parameters with
    | timestamp parameters =>
      cases logical with
      | instant nanos =>
        obtain ⟨moment, -, rfl⟩ := hdecodes
        exact ⟨_, rfl, hencode _ hinput⟩
      | _ => exact hrenders.elim
    | _ => cases fits

theorem replayText_eq (decoded : DecodedValue) : replayText decoded = canonicalDecodedText decoded := by
  cases decoded with
  | boolean b => cases b <;> rfl
  | _ => rfl

/-- A text is replayed when it is canonical. -/
theorem storedDecoded_replay {field : FieldSchema} {text : String} :
    (∃ decoded, storedDecoded field text = .ok decoded ∧ replayText decoded = text) ↔
      IsCanonicalText field text := by
  unfold storedDecoded
  constructor
  · rintro ⟨decoded, h, hreplay⟩
    simp only [bind_eq_ok] at h
    obtain ⟨candidate, -, payload, -, hdecode⟩ := h
    exact ⟨payload, decoded, hdecode, by rw [← hreplay, replayText_eq]⟩
  · rintro ⟨payload, decoded, hdecode, rfl⟩
    obtain ⟨candidate, hcandidate, hencode⟩ := storedCandidate_of_decoded hdecode
    refine ⟨decoded, ?_, replayText_eq decoded⟩
    simp only [bind_eq_ok]
    exact ⟨candidate, hcandidate, payload, hencode, hdecode⟩

/-! ## Fields -/

/-- A field as the boundary rebuilds it. -/
def asStored (field : FieldSchema) : FieldSchema := { field with nullable := true }

theorem decimalParameters_make (parameters : DecimalParameters) :
    DecimalParameters.make parameters.precision parameters.scale = .ok parameters := by
  have hprecision : (1 : Int) ≤ parameters.precision ∧ (parameters.precision : Int) ≤ 38 := by
    have := parameters.precision_pos
    have := parameters.precision_le
    omega
  have hscale : (0 : Int) ≤ parameters.scale ∧ (parameters.scale : Int) ≤ parameters.precision := by
    have := parameters.scale_le
    omega
  rw [DecimalParameters.make, dif_pos hprecision, dif_pos hscale]
  rfl

theorem timestampParameters_make (parameters : TimestampParameters) :
    TimestampParameters.make parameters.precision = .ok parameters := by
  have hprecision : (0 : Int) ≤ parameters.precision ∧ (parameters.precision : Int) ≤ 9 := by
    have := parameters.precision_le
    omega
  rw [TimestampParameters.make, dif_pos hprecision]
  rfl

theorem storedParameters_comparisonField (field : FieldSchema) :
    storedParameters (comparisonField field) = .ok field.parameters := by
  obtain ⟨name, logicalType, nullable, parameters, normalization, fits⟩ := field
  cases parameters with
  | none =>
    cases logicalType <;> first | rfl | cases fits
  | decimal parameters =>
    cases logicalType <;> cases fits
    change (DecimalParameters.make parameters.precision parameters.scale >>= _) = _
    rw [decimalParameters_make]
    rfl
  | timestamp parameters =>
    cases logicalType <;> cases fits
    · change (TimestampParameters.make parameters.precision >>= _) = _
      rw [timestampParameters_make]
      rfl
    · change (TimestampParameters.make parameters.precision >>= _) = _
      rw [timestampParameters_make]
      rfl

theorem comparisonField_logicalType (field : FieldSchema) :
    (comparisonField field).logicalType = field.logicalType := by
  unfold comparisonField
  split <;> rfl

theorem storedField_comparisonField (field : FieldSchema) :
    storedField (comparisonField field) = .ok (asStored field) := by
  have hnormalization : field.normalization = .none := rfl
  rw [storedField, storedParameters_comparisonField]
  change FieldSchema.make (comparisonField field).fieldName (comparisonField field).logicalType true
    field.parameters .none = _
  rw [comparisonField_fieldName, comparisonField_logicalType, FieldSchema.make,
    dif_pos field.fits, asStored, hnormalization]

theorem isCanonicalText_asStored {field : FieldSchema} {text : String} :
    IsCanonicalText (asStored field) text ↔ IsCanonicalText field text := Iff.rfl

/-- The boundary takes exactly the canonical texts of the field. -/
theorem requireCanonicalEvidenceValue_eq_ok {field : FieldSchema} {value : EvidenceFieldValue}
    {u : Unit} :
    requireCanonicalEvidenceValue value (comparisonField field) = .ok u ↔
      value.canonicalHex = none ∧
        ∃ text, value.canonicalText = some text ∧ IsCanonicalText field text := by
  have hparts : requireCanonicalEvidenceValue value (comparisonField field) = .ok u ↔
      value.canonicalHex = none ∧ ∃ text, value.canonicalText = some text ∧
        ∃ decoded, storedDecoded (asStored field) text = .ok decoded ∧
          replayText decoded = text := by
    unfold requireCanonicalEvidenceValue
    split
    · rename_i text htext hhex
      rw [storedField_comparisonField, htext, hhex]
      change ((storedDecoded (asStored field) text).mapError _ >>= _) = _ ↔ _
      rw [bind_eq_ok]
      simp only [mapError_eq_ok, refuseIf_eq_ok, ne_eq, not_not, true_and, Option.some.injEq,
        exists_eq_left']
    · rename_i hother
      simp only [reduceCtorEq, false_iff, not_and, not_exists]
      intro hhex text htext
      exact absurd hhex (hother text htext)
  rw [hparts]
  simp only [storedDecoded_replay, isCanonicalText_asStored]

end ForensicData.Persistence
