/-
ForensicData.Comparison.Evidence — a difference as evidence.

The engine writes a difference down under its evidence policy: fields to omit
are named, fields to redact have no value, and fields to store have the
canonical text of the decoded one. A key that is stored whole is digested.
-/
import ForensicData.Canonical.Codec
import ForensicData.Comparison.Engine
import ForensicData.Contracts.Evidence
import ForensicData.Reporting.Evidence

namespace ForensicData.Comparison

open ForensicData.Canonical
open ForensicData.Contracts
open ForensicData.Lib
open ForensicData.Reporting
open Json (renderInt)

/-! ## Texts -/

/-- `format(value, "f")` of the coefficient with as many digits behind the point
as the scale says. -/
def decimalText (coefficient : Int) (scale : ℕ) : List Char :=
  let magnitude := coefficient.natAbs
  let digits := Nat.toDigits 10 (magnitude / 10 ^ scale) ++
    if scale = 0 then [] else '.' :: fixedDigits 10 scale magnitude
  if coefficient < 0 then '-' :: digits else digits

/-- `_canonical_decoded_text`. -/
def canonicalDecodedText : DecodedValue → String
  | .boolean value => if value then "true" else "false"
  | .integer value => String.ofList (renderInt value)
  | .decimal coefficient scale => String.ofList (decimalText coefficient scale)
  | .date value => String.ofList (formatDate value)
  | .text value => value

/-! ## Values -/

/-- `_field_type_parameters`. -/
def fieldTypeParameters (field : FieldSchema) : Option ℕ × Option ℕ × Option ℕ :=
  match field.parameters with
  | .decimal parameters => (some parameters.precision, some parameters.scale, none)
  | .timestamp parameters => (none, none, some parameters.precision)
  | .none => (none, none, none)

/-- A field that is shown without its value. -/
def redactedValue (field : FieldSchema) : EvidenceFieldValue :=
  let (decimalPrecision, decimalScale, timestampPrecision) := fieldTypeParameters field
  { fieldName := field.name, logicalType := field.logicalType, decimalPrecision, decimalScale
    timestampPrecision, rawAvailable := false, availability := .redacted, isNull := none
    canonicalText := none, canonicalHex := none, unavailableReason := some .policyRedacted }

/-- A field that is shown with its value. -/
def storedValue (field : FieldSchema) (value : Option DecodedValue) : EvidenceFieldValue :=
  let (decimalPrecision, decimalScale, timestampPrecision) := fieldTypeParameters field
  { fieldName := field.name, logicalType := field.logicalType, decimalPrecision, decimalScale
    timestampPrecision, rawAvailable := true, availability := .stored
    isNull := some (decide (value = none)), canonicalText := value.map canonicalDecodedText
    canonicalHex := none, unavailableReason := none }

/-- `_evidence_field_value`. -/
def evidenceFieldValue (field : FieldSchema) (value : Option DecodedValue) :
    EvidenceAction → Except Refusal EvidenceFieldValue
  | .redact => EvidenceFieldValue.make (redactedValue field)
  | .store => EvidenceFieldValue.make (storedValue field value)
  | .omit => .error
    { error := .assertionError
      message := "omitted fields must not be materialized as evidence values" }

/-- The values of the fields that are shown in a group and that the policy does
not omit. -/
def groupValues (shown : FieldSchema → Bool) :
    List FieldSchema → List (Option DecodedValue) → List EvidenceAction →
      Except Refusal (List EvidenceFieldValue)
  | field :: fields, value :: values, action :: actions =>
    if shown field = true ∧ action ≠ .omit then do
      let first ← evidenceFieldValue field value action
      let rest ← groupValues shown fields values actions
      .ok (first :: rest)
    else groupValues shown fields values actions
  | _, _, _ => .ok []

def fieldCountDiffers : Refusal :=
  { error := .comparisonProtocolError
    message := "decoded exact-row field count differs from the comparison schema" }

def isKeyField (key : List String) (field : FieldSchema) : Bool := decide (field.name ∈ key)

/-- `_side_evidence_values`. -/
def sideEvidenceValues (row : Option ExactRow) (fields : List FieldSchema)
    (actions : List EvidenceAction) (key : List String) :
    Except Refusal (List EvidenceFieldValue) :=
  match row with
  | none => .ok []
  | some row => do
    refuseIf (row.values.length ≠ fields.length) fieldCountDiffers
    groupValues (fun field => !isKeyField key field) fields row.values actions

/-! ## Records -/

/-- The names of the fields with an action. -/
def namesWith (action : EvidenceAction) (fields : List FieldSchema)
    (actions : List EvidenceAction) : List String :=
  ((fields.zip actions).filter fun item => decide (item.2 = action)).map fun item => item.1.name

/-- Every key field is stored. -/
def allKeyFieldsStored (fields : List FieldSchema) (actions : List EvidenceAction)
    (key : List String) : Bool :=
  (fields.zip actions).all fun item => !isKeyField key item.1 || decide (item.2 = .store)

/-- The digest of a key that is stored whole. -/
def storedKeyDigest (sha256 : Sha256) (stored : Bool) (keyValues : List EvidenceFieldValue) :
    Except Refusal (Option Sha256Hex) :=
  if stored = true then (keyDigest sha256 keyValues).map some else .ok none

/-- What `_difference_record` fills a record with. -/
def differenceBody (sha256 : Sha256) (fields : List FieldSchema) (key : List String)
    (policy : EvidenceDefinition) (difference : ExactDifference) :
    Except Refusal DifferenceBody := do
  refuseIf (difference.keyRow.values.length ≠ fields.length) fieldCountDiffers
  let actions ← evidenceActions fields policy
  let keyValues ← groupValues (isKeyField key) fields difference.keyRow.values actions
  let stored := allKeyFieldsStored fields actions key
  let keyDigest ← storedKeyDigest sha256 stored keyValues
  let referenceValues ← sideEvidenceValues difference.referenceRow fields actions key
  let targetValues ← sideEvidenceValues difference.targetRow fields actions key
  DifferenceBody.make sha256 difference.kind
    { keyAvailability := if stored = true then .available else .keysetUnavailable
      keyDigest, omittedFieldNames := namesWith .omit fields actions, keyValues
      referenceValues, targetValues }

/-- `_difference_record` of a check's fields and key. -/
def evidenceRecord (sha256 : Sha256) (fields : List FieldSchema) (key : List String)
    (policy : EvidenceDefinition) (sequence : ℕ) (difference : ExactDifference) :
    Except Refusal EvidenceRecord := do
  let body ← differenceBody sha256 fields key policy difference
  .ok { sequence, segmentSequence := difference.segmentSequence, kind := difference.kind, body }

end ForensicData.Comparison
