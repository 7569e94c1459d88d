/-
ForensicData.Persistence.EvidenceBoundary — what publication lets through.

Publication and readback check every anomaly against the fields, the ordered
key and the evidence policy of the stored run: which fields a record names,
which of them it shows with a value, that each value is canonical for its
field, and that the digest is the one of the key it shows.
-/
import ForensicData.Comparison.Evidence
import ForensicData.Lib.PythonInt

namespace ForensicData.Persistence

open ForensicData.Canonical
open ForensicData.Comparison
open ForensicData.Contracts
open ForensicData.Lib
open ForensicData.Reporting
open Json (renderInt)

/-! ## The boundary -/

/-- `ComparisonContext`, of which the boundary reads the fields and the key. -/
structure ComparisonContext where
  comparisonFields : List ComparisonField
  orderedKey : List String
  fields_ne : comparisonFields ≠ []
  fields_nodup : (comparisonFields.map ComparisonField.fieldName).Nodup
  key_ne : orderedKey ≠ []
  key_nodup : orderedKey.Nodup
  key_mem : ∀ name ∈ orderedKey, name ∈ comparisonFields.map ComparisonField.fieldName

/-- The fields and the key of the context, read from a stored schema and key:
the checks of `_comparison_schema_from_semantics` and of `ComparisonContext`. -/
def comparisonContext (fields : List FieldSchema) (orderedKey : List String) :
    Except Refusal ComparisonContext := do
  let comparisonFields := fields.map comparisonField
  let fieldNames := comparisonFields.map ComparisonField.fieldName
  refuseIf ("" ∈ fieldNames) (modelValidation "String should have at least 1 character")
  if hkey : orderedKey ≠ [] ∧ orderedKey.Nodup then
    if hmem : ∀ name ∈ orderedKey, name ∈ fieldNames then
      if hfields : comparisonFields ≠ [] ∧ fieldNames.Nodup then
        .ok
          { comparisonFields, orderedKey, fields_ne := hfields.1, fields_nodup := hfields.2
            key_ne := hkey.1, key_nodup := hkey.2, key_mem := hmem }
      else .error (storedIntegrity
        ("stored comparison context violates the reporting protocol: " ++
          "reason=comparison fields must be nonempty and uniquely named"))
    else .error (storedIntegrity
      "comparison context ordered key references an unknown comparison field")
  else .error (storedIntegrity "comparison context ordered key is invalid")

/-- `_ComparisonEvidenceBoundary`. -/
structure ComparisonEvidenceBoundary where
  context : ComparisonContext
  actions : List EvidenceAction

/-- The boundary of a stored request over a stored schema and key. -/
def evidenceBoundary (request : List (String × Json)) (fields : List FieldSchema)
    (orderedKey : List String) : Except Refusal ComparisonEvidenceBoundary := do
  let context ← comparisonContext fields orderedKey
  let actions ← evidenceActionsFromRequest request context.comparisonFields
  .ok { context, actions }

/-! ## The schema of an anomaly -/

/-- The field of a name; the names of a context are distinct. -/
def ComparisonContext.field? (context : ComparisonContext) (name : String) :
    Option ComparisonField :=
  context.comparisonFields.find? fun field => decide (field.fieldName = name)

def ComparisonContext.fieldNames (context : ComparisonContext) : List String :=
  context.comparisonFields.map ComparisonField.fieldName

/-- The value has the type and the parameters of its field. -/
def requireFieldType (context : ComparisonContext) (value : EvidenceFieldValue) :
    Except Refusal Unit :=
  refuseIf (∀ field ∈ context.field? value.fieldName,
      ¬ (value.logicalType = field.logicalType ∧ value.decimalPrecision = field.decimalPrecision ∧
        value.decimalScale = field.decimalScale ∧
        value.timestampPrecision = field.timestampPrecision))
    (storedIntegrity "stored anomaly field differs from the immutable comparison schema")

/-- The loop of `_validate_anomaly_schema` over the groups of one anomaly. -/
def validateGroupSchema (context : ComparisonContext) (group : List EvidenceFieldValue) :
    Except Refusal Unit := do
  let groupNames := group.map EvidenceFieldValue.fieldName
  refuseIf (groupNames ≠ context.fieldNames.filter (· ∈ groupNames))
    (storedIntegrity "stored anomaly fields do not follow comparison schema order")
  group.forM (requireFieldType context)

/-- One round of `_validate_anomaly_schema`. -/
def validateSchemaOf (context : ComparisonContext) (anomaly : EvidenceRecord) :
    Except Refusal Unit := do
  anomaly.body.groups.forM (validateGroupSchema context)
  let keyNames := anomaly.body.keyValues.map EvidenceFieldValue.fieldName
  refuseIf (keyNames ≠ context.orderedKey ∧ keyNames ≠ [])
    (storedIntegrity "stored anomaly key fields differ from the immutable ordered key")
  refuseIf (anomaly.body.omittedFieldNames
      ≠ context.fieldNames.filter (· ∈ anomaly.body.omittedFieldNames))
    (storedIntegrity "stored anomaly omitted fields do not follow comparison schema order")
  refuseIf (∃ name ∈ anomaly.body.omittedFieldNames, name ∉ context.fieldNames)
    (storedIntegrity "stored anomaly omits a field outside the comparison schema")

/-- `_validate_anomaly_schema`. -/
def validateAnomalySchema (anomalies : List EvidenceRecord) (context : ComparisonContext) :
    Except Refusal Unit :=
  anomalies.forM (validateSchemaOf context)

/-! ## Canonical values -/

/-- The parameters of a stored field. -/
def storedParameters (field : ComparisonField) : Except Refusal FieldParameters :=
  match field.logicalType with
  | .decimal =>
    match field.decimalPrecision, field.decimalScale with
    | some precision, some scale => do
      let parameters ← DecimalParameters.make precision scale
      .ok (.decimal parameters)
    | _, _ => .error (storedIntegrity
        "stored decimal anomaly field lacks immutable precision or scale")
  | .timestampLocal => timestampParameters field
  | .timestampInstant => timestampParameters field
  | _ => .ok .none
where
  timestampParameters (field : ComparisonField) : Except Refusal FieldParameters :=
    match field.timestampPrecision with
    | some precision => do
      let parameters ← TimestampParameters.make precision
      .ok (.timestamp parameters)
    | none => .error (storedIntegrity
        "stored timestamp anomaly field lacks immutable precision")

/-- The field as a field of a schema. -/
def storedField (field : ComparisonField) : Except Refusal FieldSchema := do
  let parameters ← storedParameters field
  FieldSchema.make field.fieldName field.logicalType true parameters .none

/-- The input a stored text stands for. -/
def storedCandidate (logicalType : LogicalType) (text : String) : Except Refusal CanonicalInput :=
  match logicalType with
  | .int64 =>
    match readPythonInt text.toList with
    | some value => .ok (.integer value)
    | none => .error { error := .valueError
                       message := s!"invalid literal for int() with base 10: {reprText text}" }
  | .boolean =>
    if text = "true" ∨ text = "false" then .ok (.boolean (decide (text = "true")))
    else .error { error := .valueError, message := "boolean evidence text must be true or false" }
  | _ => .ok (.text (codePoints text.toList))

/-- The canonical form of a stored text. -/
def storedDecoded (field : FieldSchema) (text : String) : Except Refusal DecodedValue := do
  let candidate ← storedCandidate field.logicalType text
  let payload ← encodePayload field candidate
  decodePayload field payload

/-- The text that a decoded value is replayed as. -/
def replayText : DecodedValue → String
  | .boolean true => "true"
  | .boolean false => "false"
  | .decimal coefficient scale => String.ofList (decimalText coefficient scale)
  | .date value => String.ofList (formatDate value)
  | .integer value => String.ofList (renderInt value)
  | .text value => value

/-- `_require_canonical_evidence_value`. -/
def requireCanonicalEvidenceValue (value : EvidenceFieldValue) (field : ComparisonField) :
    Except Refusal Unit :=
  match value.canonicalText, value.canonicalHex with
  | some text, none => do
    let schemaField ← storedField field
    let decoded ← (storedDecoded schemaField text).mapError fun refusal => storedIntegrity
      ("stored anomaly value is invalid for its immutable logical schema: " ++
        s!"field={reprText field.fieldName}, reason={refusal.message}")
    refuseIf (replayText decoded ≠ text)
      (storedIntegrity ("stored anomaly value is not canonical for its immutable logical " ++
        s!"schema: field={reprText field.fieldName}"))
  | _, _ => .error (storedIntegrity
      "stored non-NULL anomaly value requires its canonical text representation")

/-! ## The policy -/

/-- `mapping[name]`. -/
def itemOf {Value : Type} (mapping : List (String × Value)) (name : String) :
    Except Refusal Value :=
  match mapping.lookup name with
  | some value => .ok value
  | none => .error { error := .keyError, message := reprText name }

/-- The availability of a field that a policy does not omit. -/
def availabilityOf : EvidenceAction → EvidenceValueAvailability
  | .store => .stored
  | _ => .redacted

/-- One round of `_require_evidence_group_policy`. -/
def requireValuePolicy (actions : List (String × EvidenceAction))
    (fieldDefinitions : List (String × ComparisonField)) (direction : String)
    (value : EvidenceFieldValue) : Except Refusal Unit := do
  let action ← itemOf actions value.fieldName
  refuseIf (value.availability ≠ availabilityOf action)
    (storedIntegrity (s!"stored anomaly {direction} representation differs from the immutable " ++
      "evidence policy"))
  if value.availability = .stored ∧ value.isNull ≠ some true then do
    let field ← itemOf fieldDefinitions value.fieldName
    requireCanonicalEvidenceValue value field
  else .ok ()

/-- `_require_evidence_group_policy`. -/
def requireEvidenceGroupPolicy (values : List EvidenceFieldValue) (expectedFields : List String)
    (actions : List (String × EvidenceAction)) (fieldDefinitions : List (String × ComparisonField))
    (direction : String) : Except Refusal Unit := do
  refuseIf (values.map EvidenceFieldValue.fieldName ≠ expectedFields)
    (storedIntegrity s!"stored anomaly {direction} fields differ from the immutable evidence policy")
  values.forM (requireValuePolicy actions fieldDefinitions direction)

/-- The checks of the key of one anomaly. -/
def requireKeyPolicy (sha256 : Sha256) (allStored : Bool) (body : DifferenceBody) :
    Except Refusal Unit :=
  if allStored = true then do
    refuseIf (∃ value ∈ body.keyValues, value.isNull = some true)
      (storedIntegrity "stored anomaly cannot retain a NULL ordered-key component")
    let expectedKeyDigest ← keyDigest sha256 body.keyValues
    refuseIf (body.keyAvailability ≠ .available ∨ body.keyDigest ≠ some expectedKeyDigest)
      (storedIntegrity
        "stored anomaly key digest differs from its policy-safe retained key")
  else
    refuseIf (body.keyAvailability ≠ .keysetUnavailable ∨ body.keyDigest ≠ none)
      (storedIntegrity
        "stored anomaly exposes keyset availability forbidden by its evidence policy")

/-- The actions that a check accepts of each name of a key. -/
def keyActions (actions : List (String × EvidenceAction)) (orderedKey : List String) :
    Except Refusal (List (String × EvidenceAction)) :=
  orderedKey.mapM fun name => do
    let action ← itemOf actions name
    .ok (name, action)

/-- One round of `_validate_anomaly_evidence_boundary`. -/
def validateEvidenceOf (sha256 : Sha256) (boundary : ComparisonEvidenceBoundary)
    (key : List (String × EvidenceAction)) (anomaly : EvidenceRecord) : Except Refusal Unit := do
  let fields := boundary.context.comparisonFields
  let actions := (fields.map ComparisonField.fieldName).zip boundary.actions
  let fieldDefinitions := fields.map fun field => (field.fieldName, field)
  let expectedOmitted := (actions.filter (·.2 = .omit)).map Prod.fst
  let expectedKeyFields := (key.filter (·.2 ≠ .omit)).map Prod.fst
  let expectedSideFields := (actions.filter fun item =>
    item.1 ∉ boundary.context.orderedKey ∧ item.2 ≠ .omit).map Prod.fst
  refuseIf (anomaly.body.omittedFieldNames ≠ expectedOmitted)
    (storedIntegrity "stored anomaly omitted fields differ from the immutable evidence policy")
  requireEvidenceGroupPolicy anomaly.body.keyValues expectedKeyFields actions fieldDefinitions "key"
  requireEvidenceGroupPolicy anomaly.body.referenceValues
    (if anomaly.kind = .extra then [] else expectedSideFields) actions fieldDefinitions "reference"
  requireEvidenceGroupPolicy anomaly.body.targetValues
    (if anomaly.kind = .missing then [] else expectedSideFields) actions fieldDefinitions "target"
  requireKeyPolicy sha256 (key.all (·.2 = .store)) anomaly.body

/-- `_validate_anomaly_evidence_boundary`. -/
def validateAnomalyEvidenceBoundary (sha256 : Sha256) (anomalies : List EvidenceRecord)
    (boundary : ComparisonEvidenceBoundary) : Except Refusal Unit := do
  validateAnomalySchema anomalies boundary.context
  let fields := boundary.context.comparisonFields
  refuseIf (fields.length ≠ boundary.actions.length)
    (storedIntegrity
      "comparison evidence policy action count differs from its immutable schema")
  let key ← keyActions ((fields.map ComparisonField.fieldName).zip boundary.actions)
    boundary.context.orderedKey
  anomalies.forM (validateEvidenceOf sha256 boundary key)

end ForensicData.Persistence
