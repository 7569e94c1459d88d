/-
ForensicData.Reporting.Evidence — the records that show a difference.

A record holds, beside its place, which fields the evidence policy left out,
the values of the key and those of the two sides. A value is stored with its
canonical text or redacted. Both validate themselves when they are built
(`EvidenceFieldValue.make`, `DifferenceBody.make`); a field constraint is
refused with the reason alone, without the report around it.
-/
import ForensicData.Canonical.Schema
import ForensicData.Comparison.Artifact

namespace ForensicData.Reporting

open ForensicData.Canonical
open ForensicData.Comparison
open ForensicData.Lib

inductive EvidenceValueAvailability where
  | stored
  | redacted
  deriving DecidableEq, Repr

def EvidenceValueAvailability.value : EvidenceValueAvailability → String
  | .stored => "stored"
  | .redacted => "redacted"

inductive EvidenceUnavailableReason where
  | policyRedacted
  deriving DecidableEq, Repr

def EvidenceUnavailableReason.value : EvidenceUnavailableReason → String
  | .policyRedacted => "policy_redacted"

inductive KeyAvailability where
  | available
  | keysetUnavailable
  deriving DecidableEq, Repr

def KeyAvailability.value : KeyAvailability → String
  | .available => "available"
  | .keysetUnavailable => "keyset_unavailable"

/-! ## Values -/

structure EvidenceFieldValue where
  fieldName : String
  logicalType : LogicalType
  decimalPrecision : Option ℕ
  decimalScale : Option ℕ
  timestampPrecision : Option ℕ
  rawAvailable : Bool
  availability : EvidenceValueAvailability
  isNull : Option Bool
  canonicalText : Option String
  canonicalHex : Option String
  unavailableReason : Option EvidenceUnavailableReason
  deriving DecidableEq

def modelValidation (message : String) : Refusal := { error := .valueError, message }

/-- `Field(ge=..., le=...)` of an optional integer. -/
def requireRange (low high : ℕ) : Option ℕ → Except Refusal Unit
  | none => .ok ()
  | some value => do
    refuseIf (value < low) (modelValidation s!"Input should be greater than or equal to {low}")
    refuseIf (high < value) (modelValidation s!"Input should be less than or equal to {high}")

/-- `^(?:[0-9a-f]\x7b2\x7d)*$`. -/
def isHexPairs (text : String) : Bool :=
  text.toList.all isLowerHex && text.toList.length % 2 == 0

namespace EvidenceFieldValue

/-- The constraints on the single fields. -/
def requireConstraints (value : EvidenceFieldValue) : Except Refusal Unit := do
  refuseIf (value.fieldName = "") (modelValidation "String should have at least 1 character")
  requireRange 1 38 value.decimalPrecision
  requireRange 0 38 value.decimalScale
  requireRange 0 9 value.timestampPrecision
  match value.canonicalHex with
  | none => .ok ()
  | some hex =>
    refuseIf (isHexPairs hex = false)
      (modelValidation "String should match pattern '^(?:[0-9a-f]\x7b2\x7d)*$'")

/-- `_validate_type_parameters`. -/
def validateTypeParameters (value : EvidenceFieldValue) : Except Refusal Unit :=
  match value.logicalType with
  | .decimal =>
    match value.decimalPrecision, value.decimalScale with
    | some precision, some scale => do
      refuseIf (precision < scale)
        (modelValidation "decimal evidence scale cannot exceed precision")
      refuseIf (value.timestampPrecision ≠ none)
        (modelValidation "decimal evidence field cannot have timestamp precision")
    | _, _ => .error (modelValidation "decimal evidence field requires precision and scale")
  | .timestampLocal => timestampParameters value
  | .timestampInstant => timestampParameters value
  | other =>
    refuseIf (value.decimalPrecision ≠ none ∨ value.decimalScale ≠ none ∨
        value.timestampPrecision ≠ none)
      (modelValidation s!"{other.value} evidence field cannot have type parameters")
where
  timestampParameters (value : EvidenceFieldValue) : Except Refusal Unit := do
    refuseIf (value.timestampPrecision = none)
      (modelValidation "timestamp evidence field requires declared precision")
    refuseIf (value.decimalPrecision ≠ none ∨ value.decimalScale ≠ none)
      (modelValidation "timestamp evidence field cannot have decimal parameters")

/-- `int(canonical_text is not None) + int(canonical_hex is not None)`. -/
def valueCount (value : EvidenceFieldValue) : ℕ :=
  (if value.canonicalText = none then 0 else 1) + if value.canonicalHex = none then 0 else 1

/-- `validate_value`. -/
def validateValue (value : EvidenceFieldValue) : Except Refusal Unit := do
  validateTypeParameters value
  match value.availability with
  | .stored =>
    refuseIf (value.rawAvailable = false)
      (modelValidation "stored evidence field requires raw_available")
    refuseIf (value.isNull = none)
      (modelValidation "stored evidence field requires an explicit null marker")
    refuseIf (value.unavailableReason ≠ none)
      (modelValidation "stored evidence field cannot have an unavailable reason")
    refuseIf (value.isNull = some true ∧ valueCount value ≠ 0)
      (modelValidation "stored NULL evidence field cannot contain a canonical value")
    refuseIf (value.isNull ≠ some true ∧ valueCount value ≠ 1)
      (modelValidation
        "stored non-NULL evidence field requires exactly one canonical text or hex value")
  | .redacted =>
    refuseIf (value.rawAvailable = true ∨ value.isNull ≠ none)
      (modelValidation "unavailable evidence field cannot expose raw value or null state")
    refuseIf (value.canonicalText ≠ none ∨ value.canonicalHex ≠ none)
      (modelValidation "unavailable evidence field cannot contain a canonical value")
    refuseIf (value.unavailableReason ≠ some .policyRedacted)
      (modelValidation (s!"{value.availability.value} evidence field requires reason " ++
        EvidenceUnavailableReason.policyRedacted.value))

/-- `EvidenceFieldValue(...)`. -/
def make (value : EvidenceFieldValue) : Except Refusal EvidenceFieldValue := do
  requireConstraints value
  validateValue value
  .ok value

/-! ## Keys -/

def optionalText : Option String → Json
  | none => .null
  | some text => .string text

def optionalNat : Option ℕ → Json
  | none => .null
  | some n => .int n

def optionalBool : Option Bool → Json
  | none => .null
  | some b => .bool b

/-- `model_dump(mode="json")`, with the keys in order. -/
def dump (value : EvidenceFieldValue) : Json :=
  .object
    [("availability", .string value.availability.value),
     ("canonical_hex", optionalText value.canonicalHex),
     ("canonical_text", optionalText value.canonicalText),
     ("decimal_precision", optionalNat value.decimalPrecision),
     ("decimal_scale", optionalNat value.decimalScale),
     ("field_name", .string value.fieldName),
     ("is_null", optionalBool value.isNull),
     ("logical_type", .string value.logicalType.value),
     ("raw_available", .bool value.rawAvailable),
     ("timestamp_precision", optionalNat value.timestampPrecision),
     ("unavailable_reason",
       optionalText (value.unavailableReason.map EvidenceUnavailableReason.value))]

end EvidenceFieldValue

/-- `_require_unique_field_names`. -/
def requireUniqueFieldNames (values : List EvidenceFieldValue) (context : String) :
    Except Refusal Unit :=
  refuseIf (¬ (values.map EvidenceFieldValue.fieldName).Nodup)
    (modelValidation s!"{context} must not contain duplicate field names")

/-- `canonical_difference_key_bytes`. -/
def canonicalDifferenceKeyBytes (keyValues : List EvidenceFieldValue) : Except Refusal Bytes := do
  requireUniqueFieldNames keyValues "difference key values"
  refuseIf (keyValues = [] ∨ ∃ value ∈ keyValues, value.availability ≠ .stored)
    (modelValidation "canonical difference key requires nonempty stored key values")
  .ok (utf8Encode (String.ofList
    (Json.object [("key_values", .array (keyValues.map EvidenceFieldValue.dump))]).render))

theorem isLowerHex_of_isDigitOf {c : Char} (h : isDigitOf 16 c = true) : isLowerHex c = true := by
  rw [isDigitOf, decide_eq_true_eq] at h
  unfold digitValue at h
  simp only [isLowerHex, Bool.or_eq_true, Bool.and_eq_true, decide_eq_true_eq, Char.le_def,
    UInt32.le_iff_toNat_le]
  change (48 ≤ c.toNat ∧ c.toNat ≤ 57) ∨ (97 ≤ c.toNat ∧ c.toNat ≤ 102)
  split at h
  · exact .inl ‹_›
  · split at h
    · exact .inr ‹_›
    · omega

/-- `hashlib.sha256(message).hexdigest()`. -/
def hexDigest (sha256 : Sha256) (message : Bytes) : Sha256Hex :=
  ⟨String.ofList (hexText (sha256.digest message)), by
    rw [isSha256Hex, String.toList_ofList, Bool.and_eq_true, beq_iff_eq, length_hexText,
      sha256.length_digest]
    exact ⟨rfl, List.all_eq_true.mpr fun c hc =>
      isLowerHex_of_isDigitOf (isDigitOf_of_mem_hexText hc)⟩⟩

/-- The digest of the retained key values. -/
def keyDigest (sha256 : Sha256) (keyValues : List EvidenceFieldValue) :
    Except Refusal Sha256Hex := do
  let bytes ← canonicalDifferenceKeyBytes keyValues
  .ok (hexDigest sha256 bytes)

/-! ## Records -/

/-- What a `DifferenceRecord` holds beside its place. -/
structure DifferenceBody where
  keyAvailability : KeyAvailability
  keyDigest : Option Sha256Hex
  omittedFieldNames : List String
  keyValues : List EvidenceFieldValue
  referenceValues : List EvidenceFieldValue
  targetValues : List EvidenceFieldValue
  deriving DecidableEq

abbrev EvidenceRecord := DifferenceRecord DifferenceBody

namespace DifferenceBody

/-- The values shown of the key and of the two sides. -/
def groups (body : DifferenceBody) : List (List EvidenceFieldValue) :=
  [body.keyValues, body.referenceValues, body.targetValues]

/-- The names of the values a body holds. -/
def representedNames (body : DifferenceBody) : List String :=
  (body.keyValues ++ body.referenceValues ++ body.targetValues).map EvidenceFieldValue.fieldName

/-- The part of `validate_record` about the key. -/
def validateKey (sha256 : Sha256) (body : DifferenceBody) : Except Refusal Unit :=
  match body.keyAvailability with
  | .available => do
    refuseIf (body.keyValues = [] ∨ ∃ value ∈ body.keyValues, value.availability ≠ .stored)
      (modelValidation "available difference key requires all retained key fields")
    refuseIf (body.keyDigest = none)
      (modelValidation "available difference key requires its policy-safe digest")
    let expectedDigest ← Reporting.keyDigest sha256 body.keyValues
    refuseIf (body.keyDigest ≠ some expectedDigest)
      (modelValidation "difference key digest does not match its retained key values")
  | .keysetUnavailable =>
    refuseIf (body.keyDigest ≠ none)
      (modelValidation "keyset_unavailable difference cannot contain a key digest")

/-- `validate_record`. -/
def validateRecord (sha256 : Sha256) (kind : DifferenceKind) (body : DifferenceBody) :
    Except Refusal Unit := do
  requireUniqueFieldNames body.keyValues "difference key values"
  requireUniqueFieldNames body.referenceValues "difference reference values"
  requireUniqueFieldNames body.targetValues "difference target values"
  refuseIf (¬ body.omittedFieldNames.Nodup)
    (modelValidation "difference omitted field names must be unique")
  refuseIf (∃ name ∈ body.representedNames, name ∈ body.omittedFieldNames)
    (modelValidation "omitted difference fields cannot contain retained or redacted values")
  validateKey sha256 body
  refuseIf (kind = .missing ∧ body.targetValues ≠ [])
    (modelValidation "missing difference cannot contain target values")
  refuseIf (kind = .extra ∧ body.referenceValues ≠ [])
    (modelValidation "extra difference cannot contain reference values")

/-- The rest of `DifferenceRecord(...)`. -/
def make (sha256 : Sha256) (kind : DifferenceKind) (body : DifferenceBody) :
    Except Refusal DifferenceBody := do
  refuseIf ("" ∈ body.omittedFieldNames) (modelValidation "String should have at least 1 character")
  validateRecord sha256 kind body
  .ok body

end DifferenceBody

/-! ## The canonical bytes of a record -/

/-- `model_dump(mode="json")` of a record, with the keys in order. -/
def dumpRecord (record : EvidenceRecord) : Json :=
  .object
    [("key_availability", .string record.body.keyAvailability.value),
     ("key_digest", EvidenceFieldValue.optionalText (record.body.keyDigest.map Subtype.val)),
     ("key_values", .array (record.body.keyValues.map EvidenceFieldValue.dump)),
     ("kind", .string record.kind.value),
     ("omitted_field_names", .array (record.body.omittedFieldNames.map Json.string)),
     ("reference_values", .array (record.body.referenceValues.map EvidenceFieldValue.dump)),
     ("segment_sequence", .int record.segmentSequence),
     ("sequence", .int record.sequence),
     ("target_values", .array (record.body.targetValues.map EvidenceFieldValue.dump))]

/-- The text of a value without spaces: `json.dumps` with sorted keys. -/
def canonicalJson (value : Json) : String := String.ofList value.render

/-- `canonical_difference_record_bytes`. -/
def canonicalDifferenceRecordBytes (record : EvidenceRecord) : Bytes :=
  utf8Encode (canonicalJson (dumpRecord record))

end ForensicData.Reporting
