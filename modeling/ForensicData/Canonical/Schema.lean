/-
ForensicData.Canonical.Schema — logical schemas and their metadata.

A schema is valid by construction: the bounds of the type parameters, their
agreement with the logical type and the protocol name are fields, and the
`make` functions are the validating constructors. The envelope headers carry
the SHA-256 digest of the schema's metadata, so they are relative to a
`Sha256`: any function to 32 bytes.
-/
import ForensicData.Canonical.Model
import ForensicData.Errors
import ForensicData.Lib.Json

namespace ForensicData.Canonical

open ForensicData.Lib

/-! ## Fields -/

inductive LogicalType where
  | int64
  | decimal
  | boolean
  | string
  | date
  | timestampLocal
  | timestampInstant
  deriving DecidableEq, Repr

def LogicalType.value : LogicalType → String
  | .int64 => "int64"
  | .decimal => "decimal"
  | .boolean => "boolean"
  | .string => "string"
  | .date => "date"
  | .timestampLocal => "timestamp_local"
  | .timestampInstant => "timestamp_instant"

theorem LogicalType.value_injective : Function.Injective LogicalType.value := by
  intro a b h
  cases a <;> cases b <;> first | rfl | exact absurd h (by decide)

inductive Normalization where
  | none
  deriving DecidableEq, Repr

def Normalization.value : Normalization → String
  | .none => "none"

def schemaValidation (message : String) : Refusal :=
  { error := .schemaValidationError, message }

structure DecimalParameters where
  precision : ℕ
  scale : ℕ
  precision_pos : 1 ≤ precision
  precision_le : precision ≤ 38
  scale_le : scale ≤ precision
  deriving Repr

instance : DecidableEq DecimalParameters := fun a b =>
  decidable_of_iff (a.precision = b.precision ∧ a.scale = b.scale) (by cases a; cases b; simp)

/-- `DecimalParameters(precision, scale)`. -/
def DecimalParameters.make (precision scale : Int) : Except Refusal DecimalParameters :=
  if hprecision : 1 ≤ precision ∧ precision ≤ 38 then
    if hscale : 0 ≤ scale ∧ scale ≤ precision then
      .ok
        { precision := precision.toNat, scale := scale.toNat, precision_pos := by omega
          precision_le := by omega, scale_le := by omega }
    else .error (schemaValidation
      "decimal scale must be an integer in the inclusive range 0..precision")
  else .error (schemaValidation
    "decimal precision must be an integer in the inclusive range 1..38")

structure TimestampParameters where
  precision : ℕ
  precision_le : precision ≤ 9
  deriving DecidableEq, Repr

/-- `TimestampParameters(precision)`. -/
def TimestampParameters.make (precision : Int) : Except Refusal TimestampParameters :=
  if h : 0 ≤ precision ∧ precision ≤ 9 then
    .ok { precision := precision.toNat, precision_le := by omega }
  else .error (schemaValidation
    "timestamp precision must be an integer in the inclusive range 0..9")

inductive FieldParameters where
  | none
  | decimal (parameters : DecimalParameters)
  | timestamp (parameters : TimestampParameters)
  deriving DecidableEq, Repr

/-- The parameters are those of the logical type. -/
def FieldParameters.fit : LogicalType → FieldParameters → Bool
  | .decimal, .decimal _ => true
  | .decimal, _ => false
  | .timestampLocal, .timestamp _ => true
  | .timestampLocal, _ => false
  | .timestampInstant, .timestamp _ => true
  | .timestampInstant, _ => false
  | _, .none => true
  | _, _ => false

theorem FieldParameters.fit_int64 : FieldParameters.fit .int64 .none = true := rfl

theorem FieldParameters.fit_string : FieldParameters.fit .string .none = true := rfl

structure FieldSchema where
  name : String
  logicalType : LogicalType
  nullable : Bool
  parameters : FieldParameters
  normalization : Normalization
  fits : parameters.fit logicalType = true
  deriving DecidableEq, Repr

/-- `FieldSchema(...)`; a `String` has no surrogates to refuse. -/
def FieldSchema.make (name : String) (logicalType : LogicalType) (nullable : Bool)
    (parameters : FieldParameters) (normalization : Normalization) : Except Refusal FieldSchema :=
  if fits : parameters.fit logicalType = true then
    .ok { name, logicalType, nullable, parameters, normalization, fits }
  else
    .error (schemaValidation
      (match logicalType with
        | .decimal => "decimal fields require precision and scale parameters"
        | .timestampLocal => "timestamp fields require a precision parameter"
        | .timestampInstant => "timestamp fields require a precision parameter"
        | other => s!"{other.value} fields require an empty parameters object"))

/-! ## Schemas -/

/-- `PROTOCOL`. -/
def protocolName : String := "dfe_canon_v1"

structure CanonicalSchema where
  protocol : String
  fields : List FieldSchema
  protocol_eq : protocol = protocolName
  count_le : fields.length ≤ uint32Max
  deriving DecidableEq, Repr

/-- `CanonicalSchema(protocol, fields)`. -/
def CanonicalSchema.make (protocol : String) (fields : List FieldSchema) :
    Except Refusal CanonicalSchema :=
  if protocol_eq : protocol = protocolName then
    if count_le : fields.length ≤ uint32Max then .ok { protocol, fields, protocol_eq, count_le }
    else .error (schemaValidation "schema field count exceeds uint32")
  else .error (schemaValidation s!"schema protocol must be exactly '{protocolName}', got_type=str")

/-! ## Metadata -/

/-- `_parameters_metadata`, with the keys in order. -/
def parametersMetadata : FieldParameters → Json
  | .decimal parameters =>
    .object [("precision", .int parameters.precision), ("scale", .int parameters.scale)]
  | .timestamp parameters => .object [("precision", .int parameters.precision)]
  | .none => .object []

def fieldMetadata (field : FieldSchema) : Json :=
  .object
    [("name", .string field.name),
     ("normalization", .string field.normalization.value),
     ("nullable", .bool field.nullable),
     ("parameters", parametersMetadata field.parameters),
     ("type", .string field.logicalType.value)]

def schemaMetadata (schema : CanonicalSchema) : Json :=
  .object
    [("fields", .array (schema.fields.map fieldMetadata)), ("protocol", .string schema.protocol)]

/-- `canonical_schema_json`: compact JSON with sorted keys. -/
def canonicalSchemaJson (schema : CanonicalSchema) : String :=
  String.ofList (schemaMetadata schema).render

/-! ## Digests and headers -/

/-- `text.encode("utf-8")`. -/
def utf8Encode (text : String) : Bytes := text.toByteArray.data.toList

/-- `payload.decode("utf-8", errors="strict")`. -/
def utf8Decode (payload : Bytes) : Option String := String.fromUTF8? ⟨payload.toArray⟩

/-- `hashlib.sha256`: a digest of 32 bytes. -/
structure Sha256 where
  digest : Bytes → Bytes
  length_digest : ∀ message, (digest message).length = 32

variable (sha256 : Sha256)

/-- `schema_digest`. -/
def schemaDigest (schema : CanonicalSchema) : Bytes :=
  sha256.digest (utf8Encode (canonicalSchemaJson schema))

/-- `schema_digest_hex`. -/
def schemaDigestHex (schema : CanonicalSchema) : List Char := hexText (schemaDigest sha256 schema)

/-- The digest and the field count, as both headers carry them. -/
def headerSuffix (schema : CanonicalSchema) : List Char :=
  schemaDigestHex sha256 schema ++ fixedDigits 16 8 schema.fields.length

/-- `row_header`. -/
def rowHeader (schema : CanonicalSchema) : List Char :=
  ['D', 'F', 'E', '1', 'R'] ++ headerSuffix sha256 schema

/-- `key_header`. -/
def keyHeader (schema : CanonicalSchema) : List Char :=
  ['D', 'F', 'E', '1', 'K'] ++ headerSuffix sha256 schema

theorem length_headerSuffix (schema : CanonicalSchema) :
    (headerSuffix sha256 schema).length = 72 := by
  simp [headerSuffix, schemaDigestHex, schemaDigest, sha256.length_digest]

/-! ## Schemas and their metadata -/

@[simp] theorem utf8Decode_eq_some {payload : Bytes} {text : String} :
    utf8Decode payload = some text ↔ payload = utf8Encode text := by
  unfold utf8Decode String.fromUTF8? utf8Encode
  constructor
  · intro h
    split at h
    · rw [Option.some.injEq] at h
      subst h
      rfl
    · simp at h
  · rintro rfl
    have hvalid : (⟨text.toByteArray.data.toList.toArray⟩ : ByteArray) = text.toByteArray := by
      rw [Array.toArray_toList]
    rw [hvalid, dif_pos text.isValidUTF8]
    rfl

theorem utf8Encode_injective : Function.Injective utf8Encode := by
  intro a b h
  have ha : utf8Decode (utf8Encode a) = some a := utf8Decode_eq_some.mpr rfl
  rw [h, utf8Decode_eq_some.mpr rfl, Option.some.injEq] at ha
  exact ha.symm

theorem parametersMetadata_injective : Function.Injective parametersMetadata := by
  intro a b h
  cases a with
  | none => cases b <;> simp_all [parametersMetadata]
  | decimal p =>
    cases b with
    | decimal q =>
      simp only [parametersMetadata, Json.object.injEq, List.cons.injEq, Prod.mk.injEq,
        Json.int.injEq, true_and, and_true, Nat.cast_inj] at h
      obtain ⟨hprecision, hscale⟩ := h
      cases p
      cases q
      simp_all
    | _ => simp [parametersMetadata] at h
  | timestamp p =>
    cases b with
    | timestamp q =>
      simp only [parametersMetadata, Json.object.injEq, List.cons.injEq, Prod.mk.injEq,
        Json.int.injEq, true_and, and_true, Nat.cast_inj] at h
      cases p
      cases q
      simp_all
    | _ => simp [parametersMetadata] at h

theorem fieldMetadata_injective : Function.Injective fieldMetadata := by
  intro a b h
  simp only [fieldMetadata, Json.object.injEq, List.cons.injEq, Prod.mk.injEq, Json.string.injEq,
    Json.bool.injEq, true_and, and_true] at h
  obtain ⟨hname, hnullable, hparameters, htype⟩ := h
  have hparameters := parametersMetadata_injective hparameters
  have htype := LogicalType.value_injective htype
  have hnormalization : a.normalization = b.normalization := rfl
  cases a
  cases b
  simp only at hname htype hnullable hparameters hnormalization
  simp only [FieldSchema.mk.injEq]
  exact ⟨hname, htype, hnullable, hparameters, hnormalization⟩

/-- Different schemas have different metadata. -/
theorem canonicalSchemaJson_injective : Function.Injective canonicalSchemaJson := by
  intro a b h
  have hmetadata : schemaMetadata a = schemaMetadata b :=
    Json.render_injective (String.ofList_injective h)
  simp only [schemaMetadata, Json.object.injEq, List.cons.injEq, Prod.mk.injEq, Json.array.injEq,
    Json.string.injEq, true_and, and_true] at hmetadata
  obtain ⟨hfields, hprotocol⟩ := hmetadata
  have hfields : a.fields = b.fields := List.map_injective_iff.mpr fieldMetadata_injective hfields
  cases a
  cases b
  simp_all

end ForensicData.Canonical
