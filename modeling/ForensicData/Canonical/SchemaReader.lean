/-
ForensicData.Canonical.SchemaReader — schemas read back from their metadata.

The reader takes JSON in any order of keys, whitespace and escapes. It accepts a
text exactly when the text spells the metadata of a schema, and returns that
schema (`schema_metadata_reading`).
-/
import ForensicData.Canonical.Schema
import ForensicData.Lib.JsonDenotation

namespace ForensicData.Canonical

open ForensicData.Lib

/-! ## JSON values -/

/-- The number of a code point, by which texts are in order. -/
def codePointNumber : Lib.CodePoint → ℕ
  | .scalar c => c.toNat
  | .surrogate index => 0xD800 + index

/-- `repr` of a text. -/
def textRepr (text : Text) : String := "'" ++ String.ofList (text.flatMap shown) ++ "'"
where
  shown : Lib.CodePoint → List Char
    | .scalar c => [c]
    | .surrogate index => '\\' :: 'u' :: fixedDigits 16 4 (0xD800 + index)

/-- The hooks that `schema_from_metadata_json` gives to `json.loads`. -/
def schemaLoadFaults : JsonFaults Refusal where
  malformed := schemaValidation "schema metadata is not valid JSON"
  duplicate key := schemaValidation
    s!"schema metadata JSON contains duplicate object key {textRepr key}"
  float token := schemaValidation
    s!"schema metadata JSON numbers must be exact integers, got '{String.ofList token}'"
  integer token := schemaValidation
    s!"schema metadata JSON integer is too large to validate: digits={token.length}"
  constant token := schemaValidation
    s!"schema metadata JSON does not permit non-finite number '{String.ofList token}'"

/-- `_require_object`. -/
def requireObject (value : PyValue) (context : String) :
    Except Refusal (List (Text × PyValue)) :=
  match value with
  | .dict members => .ok members
  | _ => .error (schemaValidation s!"{context} must be an object")

/-- `sorted(keys)!r`. -/
def keysText (keys : List Text) : String :=
  "[" ++ ", ".intercalate ((keys.insertionSort fun a b =>
    a.map codePointNumber ≤ b.map codePointNumber).map textRepr) ++ "]"

/-- `_require_exact_keys`. -/
def requireExactKeys (members : List (Text × PyValue)) (expected : List String)
    (context : String) : Except Refusal Unit :=
  let actual := members.map Prod.fst
  let names := expected.map Text.ofString
  refuseIf (¬ PyValue.HasKeys members expected) (schemaValidation
    (s!"{context} keys do not match canonical protocol v1: "
      ++ s!"missing={keysText (names.filter (· ∉ actual))}, "
      ++ s!"extra={keysText (actual.filter (· ∉ names))}"))

def requireString (value : PyValue) (message : String) : Except Refusal Text :=
  match value with
  | .str text => .ok text
  | _ => .error (schemaValidation message)

def requireBool (value : PyValue) (message : String) : Except Refusal Bool :=
  match value with
  | .bool b => .ok b
  | _ => .error (schemaValidation message)

def requireArray (value : PyValue) (message : String) : Except Refusal (List PyValue) :=
  match value with
  | .list values => .ok values
  | _ => .error (schemaValidation message)

/-- `_require_integer`. -/
def requireExactInteger (value : PyValue) (context : String) : Except Refusal Int :=
  match value with
  | .int n => .ok n
  | _ => .error (schemaValidation s!"{context} must be an exact integer")

/-! ## Fields -/

def LogicalType.all : List LogicalType :=
  [.int64, .decimal, .boolean, .string, .date, .timestampLocal, .timestampInstant]

/-- `LogicalType(value)`. -/
def LogicalType.ofText (text : Text) : Option LogicalType :=
  LogicalType.all.find? fun logicalType => decide (Text.ofString logicalType.value = text)

def requireLogicalType (text : Text) (context : String) : Except Refusal LogicalType :=
  (LogicalType.ofText text).elim
    (.error (schemaValidation s!"{context} has unsupported logical type {textRepr text}")) .ok

/-- `_parameters_from_json_value`. -/
def parametersFromJsonValue (logicalType : LogicalType) (value : PyValue) (context : String) :
    Except Refusal FieldParameters := do
  let parameters ← requireObject value s!"{context} parameters"
  match logicalType with
  | .decimal => do
    requireExactKeys parameters ["precision", "scale"] s!"{context} parameters"
    let precision ← requireExactInteger (PyValue.item parameters "precision")
      s!"{context} decimal precision"
    let scale ← requireExactInteger (PyValue.item parameters "scale") s!"{context} decimal scale"
    (DecimalParameters.make precision scale).map .decimal
  | .timestampLocal | .timestampInstant => do
    requireExactKeys parameters ["precision"] s!"{context} parameters"
    let precision ← requireExactInteger (PyValue.item parameters "precision")
      s!"{context} timestamp precision"
    (TimestampParameters.make precision).map .timestamp
  | _ => do
    requireExactKeys parameters [] s!"{context} parameters"
    return .none

/-- `normalization_value != Normalization.NONE.value`. -/
def requireNormalization (value : PyValue) (context : String) : Except Refusal Unit :=
  let refusal := schemaValidation s!"{context} normalization must be exactly 'none'"
  match value with
  | .str text => refuseIf (text ≠ Text.ofString Normalization.none.value) refusal
  | _ => .error refusal

/-- `_validate_unicode_scalars` of a field's name. -/
def fieldName (name : Text) : Except Refusal String :=
  name.readString.mapError fun index =>
    schemaValidation s!"field name contains a surrogate code point at character {index}"

/-- `_FIELD_KEYS`. -/
def fieldKeys : List String := ["name", "normalization", "nullable", "parameters", "type"]

/-- `_field_from_json_value`. -/
def fieldFromJsonValue (value : PyValue) (index : ℕ) : Except Refusal FieldSchema := do
  let context := s!"schema field at index {index}"
  let field ← requireObject value context
  requireExactKeys field fieldKeys context
  let name ← requireString (PyValue.item field "name") s!"{context} name must be a string"
  let logicalTypeValue ← requireString (PyValue.item field "type")
    s!"{context} type must be a string"
  let logicalType ← requireLogicalType logicalTypeValue context
  let nullable ← requireBool (PyValue.item field "nullable") s!"{context} nullable must be a boolean"
  requireNormalization (PyValue.item field "normalization") context
  let parameters ← parametersFromJsonValue logicalType (PyValue.item field "parameters") context
  let name ← fieldName name
  FieldSchema.make name logicalType nullable parameters .none

/-- The fields from `index` on. -/
def fieldsFromJsonValues (index : ℕ) : List PyValue → Except Refusal (List FieldSchema)
  | [] => .ok []
  | value :: values => do
    let field ← fieldFromJsonValue value index
    (fieldsFromJsonValues (index + 1) values).map fun fields => field :: fields

/-! ## Schemas -/

/-- `CanonicalSchema(protocol, fields)`, where the protocol is any text. -/
def schemaOfProtocol (protocol : Text) (fields : List FieldSchema) :
    Except Refusal CanonicalSchema :=
  match protocol.readString with
  | .ok protocol => CanonicalSchema.make protocol fields
  | .error _ => .error (schemaValidation
      s!"schema protocol must be exactly '{protocolName}', got_type=str")

/-- `schema_from_metadata_json`, after `json.loads`. -/
def schemaFromValue (parsed : PyValue) : Except Refusal CanonicalSchema := do
  let metadata ← requireObject parsed "schema metadata"
  requireExactKeys metadata ["fields", "protocol"] "schema metadata"
  let protocol ← requireString (PyValue.item metadata "protocol")
    "schema metadata protocol must be a string"
  let fieldsArray ← requireArray (PyValue.item metadata "fields")
    "schema metadata fields must be an array"
  let fields ← fieldsFromJsonValues 0 fieldsArray
  schemaOfProtocol protocol fields

/-- `schema_from_metadata_json`. -/
def schemaFromMetadataJson (metadataJson : Text) : Except Refusal CanonicalSchema := do
  let parsed ← JsonText.loads (loadHooks schemaLoadFaults) metadataJson
  schemaFromValue parsed

/-! ## What the readers accept -/

section Reading

variable {value : PyValue} {members : List (Text × PyValue)} {context message : String}

theorem requireObject_eq_ok : requireObject value context = .ok members ↔ value = .dict members := by
  cases value <;> simp [requireObject]

theorem requireExactKeys_eq_ok {expected : List String} {u : Unit} :
    requireExactKeys members expected context = .ok u ↔ PyValue.HasKeys members expected := by
  rw [requireExactKeys, refuseIf_eq_ok, not_not]

theorem requireString_eq_ok {text : Text} :
    requireString value message = .ok text ↔ value = .str text := by
  cases value <;> simp [requireString]

theorem requireBool_eq_ok {b : Bool} :
    requireBool value message = .ok b ↔ value = .bool b := by
  cases value <;> simp [requireBool]

theorem requireArray_eq_ok {values : List PyValue} :
    requireArray value message = .ok values ↔ value = .list values := by
  cases value <;> simp [requireArray]

theorem requireExactInteger_eq_ok {n : Int} :
    requireExactInteger value context = .ok n ↔ value = .int n := by
  cases value <;> simp [requireExactInteger]

theorem requireNormalization_eq_ok {u : Unit} :
    requireNormalization value context = .ok u ↔ value.Denotes (.string "none") := by
  rw [PyValue.denotes_string_iff]
  cases value with
  | str text =>
    show refuseIf (text ≠ Text.ofString "none") _ = .ok () ↔ _
    rw [refuseIf_eq_ok, not_not, PyValue.str.injEq]
  | _ => simp [requireNormalization]

theorem LogicalType.ofText_eq_some {text : Text} {logicalType : LogicalType} :
    LogicalType.ofText text = some logicalType ↔ text = Text.ofString logicalType.value := by
  unfold LogicalType.ofText
  constructor
  · intro h
    have hvalue := List.find?_some h
    exact (of_decide_eq_true hvalue).symm
  · rintro rfl
    cases logicalType <;> decide

theorem DecimalParameters.make_eq_ok {precision scale : Int} {parameters : DecimalParameters} :
    DecimalParameters.make precision scale = .ok parameters ↔
      precision = parameters.precision ∧ scale = parameters.scale := by
  have hpos := parameters.precision_pos
  have hle := parameters.precision_le
  have hscale := parameters.scale_le
  unfold DecimalParameters.make
  constructor
  · intro h
    split_ifs at h with hprecision hbounds
    cases h
    simp only
    omega
  · rintro ⟨rfl, rfl⟩
    rw [dif_pos (by omega), dif_pos (by omega)]
    cases parameters
    simp

theorem TimestampParameters.make_eq_ok {precision : Int} {parameters : TimestampParameters} :
    TimestampParameters.make precision = .ok parameters ↔ precision = parameters.precision := by
  have hle := parameters.precision_le
  unfold TimestampParameters.make
  constructor
  · intro h
    split_ifs at h with hprecision
    cases h
    simp only
    omega
  · rintro rfl
    rw [dif_pos (by omega)]
    cases parameters
    simp

theorem denotes_decimal_iff {parameters : DecimalParameters}
    (honce : (members.map Prod.fst).Nodup) :
    (PyValue.dict members).Denotes (parametersMetadata (.decimal parameters)) ↔
      PyValue.HasKeys members ["precision", "scale"] ∧
        PyValue.item members "precision" = .int parameters.precision ∧
        PyValue.item members "scale" = .int parameters.scale := by
  rw [parametersMetadata, PyValue.denotes_dict_iff honce (by simp)]
  simp [PyValue.denotes_int_iff]

theorem denotes_timestamp_iff {parameters : TimestampParameters}
    (honce : (members.map Prod.fst).Nodup) :
    (PyValue.dict members).Denotes (parametersMetadata (.timestamp parameters)) ↔
      PyValue.HasKeys members ["precision"] ∧
        PyValue.item members "precision" = .int parameters.precision := by
  rw [parametersMetadata, PyValue.denotes_dict_iff honce (by simp)]
  simp [PyValue.denotes_int_iff]

theorem denotes_noParameters_iff (honce : (members.map Prod.fst).Nodup) :
    (PyValue.dict members).Denotes (parametersMetadata .none) ↔ PyValue.HasKeys members [] := by
  rw [parametersMetadata, PyValue.denotes_dict_iff honce (by simp)]
  simp

theorem decimalParameters_eq_ok {parameters : FieldParameters}
    (honce : (members.map Prod.fst).Nodup) :
    (requireExactKeys members ["precision", "scale"] s!"{context} parameters" >>= fun _ =>
      requireExactInteger (PyValue.item members "precision") s!"{context} decimal precision"
        >>= fun precision =>
      requireExactInteger (PyValue.item members "scale") s!"{context} decimal scale"
        >>= fun scale => (DecimalParameters.make precision scale).map FieldParameters.decimal)
        = .ok parameters ↔
      ∃ own, parameters = .decimal own ∧
        (PyValue.dict members).Denotes (parametersMetadata (.decimal own)) := by
  simp only [bind_eq_ok, requireExactKeys_eq_ok, requireExactInteger_eq_ok, JsonText.map_eq_ok,
    DecimalParameters.make_eq_ok, denotes_decimal_iff honce]
  constructor
  · rintro ⟨-, hnames, precision, hprecision, scale, hscale, own, ⟨rfl, rfl⟩, rfl⟩
    exact ⟨own, rfl, hnames, hprecision, hscale⟩
  · rintro ⟨own, rfl, hnames, hprecision, hscale⟩
    exact ⟨(), hnames, _, hprecision, _, hscale, own, ⟨rfl, rfl⟩, rfl⟩

theorem timestampParameters_eq_ok {parameters : FieldParameters}
    (honce : (members.map Prod.fst).Nodup) :
    (requireExactKeys members ["precision"] s!"{context} parameters" >>= fun _ =>
      requireExactInteger (PyValue.item members "precision") s!"{context} timestamp precision"
        >>= fun precision => (TimestampParameters.make precision).map FieldParameters.timestamp)
        = .ok parameters ↔
      ∃ own, parameters = .timestamp own ∧
        (PyValue.dict members).Denotes (parametersMetadata (.timestamp own)) := by
  simp only [bind_eq_ok, requireExactKeys_eq_ok, requireExactInteger_eq_ok, JsonText.map_eq_ok,
    TimestampParameters.make_eq_ok, denotes_timestamp_iff honce]
  constructor
  · rintro ⟨-, hnames, precision, hprecision, own, rfl, rfl⟩
    exact ⟨own, rfl, hnames, hprecision⟩
  · rintro ⟨own, rfl, hnames, hprecision⟩
    exact ⟨(), hnames, _, hprecision, own, rfl, rfl⟩

theorem noParameters_eq_ok {parameters : FieldParameters} (honce : (members.map Prod.fst).Nodup) :
    (requireExactKeys members [] s!"{context} parameters" >>= fun _ =>
      (pure FieldParameters.none : Except Refusal FieldParameters)) = .ok parameters ↔
      parameters = .none ∧ (PyValue.dict members).Denotes (parametersMetadata .none) := by
  simp only [bind_eq_ok, requireExactKeys_eq_ok, pure_eq_ok, denotes_noParameters_iff honce]
  constructor
  · rintro ⟨-, hnames, rfl⟩
    exact ⟨rfl, hnames⟩
  · rintro ⟨rfl, hnames⟩
    exact ⟨(), hnames, rfl⟩

/-- The parameters of a type are read from their metadata, and from nothing else. -/
theorem parametersFromJsonValue_eq_ok {logicalType : LogicalType} {parameters : FieldParameters}
    (hkeys : value.KeysOnce) :
    parametersFromJsonValue logicalType value context = .ok parameters ↔
      parameters.fit logicalType = true ∧ value.Denotes (parametersMetadata parameters) := by
  rw [parametersFromJsonValue, bind_eq_ok]
  by_cases hdict : ∃ members, value = .dict members
  · rcases hdict with ⟨members, rfl⟩
    have hobject : ∀ other, requireObject (.dict members) s!"{context} parameters" = .ok other ↔
        members = other := by
      intro other
      rw [requireObject_eq_ok, PyValue.dict.injEq]
    simp only [hobject, exists_eq_left']
    cases logicalType with
    | decimal =>
      refine (decimalParameters_eq_ok hkeys.1).trans ?_
      cases parameters <;> simp [FieldParameters.fit]
    | timestampLocal =>
      refine (timestampParameters_eq_ok hkeys.1).trans ?_
      cases parameters <;> simp [FieldParameters.fit]
    | timestampInstant =>
      refine (timestampParameters_eq_ok hkeys.1).trans ?_
      cases parameters <;> simp [FieldParameters.fit]
    | _ =>
      refine (noParameters_eq_ok hkeys.1).trans ?_
      cases parameters <;> simp [FieldParameters.fit]
  · simp only [not_exists] at hdict
    have hnot : ¬ value.Denotes (parametersMetadata parameters) := by
      cases parameters <;> exact PyValue.not_denotes_object hdict
    simp only [requireObject_eq_ok, hdict, false_and, exists_false, hnot, and_false]

theorem fieldName_eq_ok {name : Text} {text : String} :
    fieldName name = .ok text ↔ name = Text.ofString text := by
  rw [fieldName, mapError_eq_ok, Text.readString_eq_ok]

theorem FieldSchema.make_eq_ok {name : String} {logicalType : LogicalType} {nullable : Bool}
    {parameters : FieldParameters} {normalization : Normalization} {field : FieldSchema} :
    FieldSchema.make name logicalType nullable parameters normalization = .ok field ↔
      parameters.fit logicalType = true ∧ field.name = name ∧ field.logicalType = logicalType ∧
        field.nullable = nullable ∧ field.parameters = parameters := by
  unfold FieldSchema.make
  constructor
  · intro h
    split_ifs at h with hfits
    cases h
    exact ⟨hfits, rfl, rfl, rfl, rfl⟩
  · rintro ⟨hfits, rfl, rfl, rfl, rfl⟩
    rw [dif_pos hfits]

theorem denotes_field_iff {field : FieldSchema} (honce : (members.map Prod.fst).Nodup) :
    (PyValue.dict members).Denotes (fieldMetadata field) ↔ PyValue.HasKeys members fieldKeys ∧
      PyValue.item members "name" = .str (Text.ofString field.name) ∧
      (PyValue.item members "normalization").Denotes (.string "none") ∧
      PyValue.item members "nullable" = .bool field.nullable ∧
      (PyValue.item members "parameters").Denotes (parametersMetadata field.parameters) ∧
      PyValue.item members "type" = .str (Text.ofString field.logicalType.value) := by
  rw [fieldMetadata, PyValue.denotes_dict_iff honce (by simp)]
  simp only [List.map_cons, List.map_nil, List.forall_mem_cons, List.not_mem_nil, false_implies,
    implies_true, and_true, PyValue.denotes_string_iff, PyValue.denotes_bool_iff]
  rfl

theorem requireLogicalType_eq_ok {text : Text} {logicalType : LogicalType} :
    requireLogicalType text context = .ok logicalType ↔
      text = Text.ofString logicalType.value := by
  rw [← LogicalType.ofText_eq_some, requireLogicalType]
  cases LogicalType.ofText text <;> simp

/-- A field is read from its metadata, and from nothing else. -/
theorem fieldFromJsonValue_eq_ok {index : ℕ} {field : FieldSchema} (hkeys : value.KeysOnce) :
    fieldFromJsonValue value index = .ok field ↔ value.Denotes (fieldMetadata field) := by
  by_cases hdict : ∃ members, value = .dict members
  · rcases hdict with ⟨members, rfl⟩
    have hparameters := PyValue.keysOnce_item hkeys.2 "parameters"
    rw [denotes_field_iff hkeys.1]
    simp only [fieldFromJsonValue, bind_eq_ok, requireObject_eq_ok, requireExactKeys_eq_ok,
      requireString_eq_ok, requireLogicalType_eq_ok, requireBool_eq_ok, requireNormalization_eq_ok,
      fieldName_eq_ok, FieldSchema.make_eq_ok]
    constructor
    · rintro ⟨own, hown, -, hnames, name, hname, type, htype, logicalType, rfl, nullable, hnullable,
        -, hnormalization, parameters, hread, text, rfl, hfits, rfl, rfl, rfl, rfl⟩
      cases hown
      rcases (parametersFromJsonValue_eq_ok hparameters).mp hread with ⟨-, hparams⟩
      exact ⟨hnames, hname, hnormalization, hnullable, hparams, htype⟩
    · rintro ⟨hnames, hname, hnormalization, hnullable, hparams, htype⟩
      have hread : parametersFromJsonValue field.logicalType (PyValue.item members "parameters")
          s!"schema field at index {index}" = .ok field.parameters :=
        (parametersFromJsonValue_eq_ok hparameters).mpr ⟨field.fits, hparams⟩
      exact ⟨members, rfl, (), hnames, _, hname, _, htype, field.logicalType, rfl, _, hnullable, (),
        hnormalization, field.parameters, hread, field.name, rfl, field.fits, rfl, rfl, rfl, rfl⟩
  · simp only [not_exists] at hdict
    have hnot : ¬ value.Denotes (fieldMetadata field) := PyValue.not_denotes_object hdict
    simp only [fieldFromJsonValue, bind_eq_ok, requireObject_eq_ok, hdict, false_and, exists_false,
      hnot]

theorem fieldsFromJsonValues_eq_ok {values : List PyValue} {index : ℕ}
    {fields : List FieldSchema} (hkeys : PyValue.KeysOnceItems values) :
    fieldsFromJsonValues index values = .ok fields ↔
      PyValue.DenotesItems values (fields.map fieldMetadata) := by
  induction values generalizing index fields with
  | nil => cases fields <;> simp [fieldsFromJsonValues, PyValue.DenotesItems]
  | cons value values ih =>
    simp only [fieldsFromJsonValues, bind_eq_ok, JsonText.map_eq_ok, fieldFromJsonValue_eq_ok hkeys.1,
      ih hkeys.2]
    cases fields with
    | nil => simp [PyValue.DenotesItems]
    | cons field fields => simp [PyValue.DenotesItems]

theorem schemaOfProtocol_eq_ok {protocol : Text} {fields : List FieldSchema}
    {schema : CanonicalSchema} :
    schemaOfProtocol protocol fields = .ok schema ↔
      protocol = Text.ofString schema.protocol ∧ fields = schema.fields := by
  have hmake : ∀ text : String, CanonicalSchema.make text fields = .ok schema ↔
      text = schema.protocol ∧ fields = schema.fields := by
    intro text
    have hprotocol := schema.protocol_eq
    have hcount := schema.count_le
    unfold CanonicalSchema.make
    constructor
    · intro h
      split_ifs at h
      cases h
      exact ⟨rfl, rfl⟩
    · rintro ⟨rfl, rfl⟩
      rw [dif_pos hprotocol, dif_pos hcount]
  unfold schemaOfProtocol
  cases hread : protocol.readString with
  | error n =>
    simp only [reduceCtorEq, false_iff, not_and]
    intro hprotocol
    rw [Text.readString_eq_ok.mpr hprotocol] at hread
    cases hread
  | ok text =>
    rw [Text.readString_eq_ok.mp hread, Text.ofString_injective.eq_iff]
    exact hmake text

theorem denotes_schema_iff {schema : CanonicalSchema} (honce : (members.map Prod.fst).Nodup) :
    (PyValue.dict members).Denotes (schemaMetadata schema) ↔
      PyValue.HasKeys members ["fields", "protocol"] ∧
      (PyValue.item members "fields").Denotes (.array (schema.fields.map fieldMetadata)) ∧
      PyValue.item members "protocol" = .str (Text.ofString schema.protocol) := by
  rw [schemaMetadata, PyValue.denotes_dict_iff honce (by simp)]
  simp only [List.map_cons, List.map_nil, List.forall_mem_cons, List.not_mem_nil, false_implies,
    implies_true, and_true, PyValue.denotes_string_iff]

/-- A schema is read from its metadata, and from nothing else. -/
theorem schemaFromValue_eq_ok {schema : CanonicalSchema} (hkeys : value.KeysOnce) :
    schemaFromValue value = .ok schema ↔ value.Denotes (schemaMetadata schema) := by
  by_cases hdict : ∃ members, value = .dict members
  · rcases hdict with ⟨members, rfl⟩
    have hfields := PyValue.keysOnce_item hkeys.2 "fields"
    rw [denotes_schema_iff hkeys.1, PyValue.denotes_array_iff]
    simp only [schemaFromValue, bind_eq_ok, requireObject_eq_ok, requireExactKeys_eq_ok,
      requireString_eq_ok, requireArray_eq_ok, schemaOfProtocol_eq_ok]
    constructor
    · rintro ⟨own, hown, -, hnames, protocol, hprotocol, values, hvalues, fields, hread, rfl, rfl⟩
      cases hown
      rw [hvalues] at hfields
      exact ⟨hnames, ⟨values, hvalues, (fieldsFromJsonValues_eq_ok hfields).mp hread⟩, hprotocol⟩
    · rintro ⟨hnames, ⟨values, hvalues, hdenotes⟩, hprotocol⟩
      rw [hvalues] at hfields
      exact ⟨members, rfl, (), hnames, _, hprotocol, values, hvalues, schema.fields,
        (fieldsFromJsonValues_eq_ok hfields).mpr hdenotes, rfl, rfl⟩
  · simp only [not_exists] at hdict
    have hnot : ¬ value.Denotes (schemaMetadata schema) := PyValue.not_denotes_object hdict
    simp only [schemaFromValue, bind_eq_ok, requireObject_eq_ok, hdict, false_and, exists_false,
      hnot]

end Reading

/-! ## Round trip -/

theorem namesOnce_schemaMetadata (schema : CanonicalSchema) :
    (schemaMetadata schema).NamesOnce := by
  have hparameters : ∀ parameters, (parametersMetadata parameters).NamesOnce := by
    intro parameters
    cases parameters <;> simp [parametersMetadata, Json.NamesOnce, Json.NamesOnceMembers]
  have hfield : ∀ field, (fieldMetadata field).NamesOnce := by
    intro field
    simp [fieldMetadata, Json.NamesOnce, Json.NamesOnceMembers, hparameters]
  have hfields : Json.NamesOnceItems (schema.fields.map fieldMetadata) := by
    rw [Json.namesOnceItems_iff]
    intro item hitem
    rcases List.mem_map.mp hitem with ⟨field, -, rfl⟩
    exact hfield field
  simp [schemaMetadata, Json.NamesOnce, Json.NamesOnceMembers, hfields]

/-- A text is accepted exactly when it spells the metadata of the schema that is
returned. -/
theorem schemaFromMetadataJson_eq_ok {metadataJson : Text} {schema : CanonicalSchema} :
    schemaFromMetadataJson metadataJson = .ok schema ↔
      ∃ tree, JsonText.Document metadataJson tree ∧
        JsonText.Denotes tree (schemaMetadata schema) := by
  have hloads := @loads_denotes _ schemaLoadFaults metadataJson _ (namesOnce_schemaMetadata schema)
  rw [schemaFromMetadataJson, bind_eq_ok, ← hloads]
  constructor
  · rintro ⟨value, hvalue, hschema⟩
    exact ⟨value, hvalue, (schemaFromValue_eq_ok (loads_keysOnce hvalue)).mp hschema⟩
  · rintro ⟨value, hvalue, hdenotes⟩
    exact ⟨value, hvalue, (schemaFromValue_eq_ok (loads_keysOnce hvalue)).mpr hdenotes⟩

theorem withinDigits_small {n : ℕ} (h : n ≤ 38) : (Json.int n).withinDigits = true := by
  have hlength : (Nat.toDigits 10 n).length ≤ 2 :=
    (Nat.length_toDigits_le_iff (by omega) (by omega)).mpr (by omega)
  rw [Json.withinDigits, Int.natAbs_natCast]
  exact decide_eq_true (hlength.trans (by decide))

theorem withinDigits_schemaMetadata (schema : CanonicalSchema) :
    (schemaMetadata schema).withinDigits = true := by
  have hparameters : ∀ parameters, (parametersMetadata parameters).withinDigits = true := by
    intro parameters
    cases parameters with
    | none => rfl
    | decimal own =>
      have hprecision := withinDigits_small own.precision_le
      have hscale := withinDigits_small (own.scale_le.trans own.precision_le)
      simp [parametersMetadata, Json.withinDigits, Json.withinDigitsMembers] at hprecision hscale ⊢
      exact ⟨hprecision, hscale⟩
    | timestamp own =>
      have hprecision := withinDigits_small (own.precision_le.trans (show 9 ≤ 38 by omega))
      simp [parametersMetadata, Json.withinDigits, Json.withinDigitsMembers] at hprecision ⊢
      exact hprecision
  have hfields : ∀ fields : List FieldSchema,
      Json.withinDigitsItems (fields.map fieldMetadata) = true := by
    intro fields
    induction fields with
    | nil => rfl
    | cons field fields ih =>
      rw [List.map_cons, Json.withinDigitsItems, ih, Bool.and_true]
      simp [fieldMetadata, Json.withinDigits, Json.withinDigitsMembers, hparameters]
  simp [schemaMetadata, Json.withinDigits, Json.withinDigitsMembers, hfields]

/-- The reader inverts the writer. -/
theorem schemaFromMetadataJson_canonicalSchemaJson (schema : CanonicalSchema) :
    schemaFromMetadataJson (Text.ofString (canonicalSchemaJson schema)) = .ok schema := by
  rw [schemaFromMetadataJson_eq_ok, canonicalSchemaJson, Text.ofString, String.toList_ofList]
  exact ⟨_, JsonText.document_render _, denotes_ofJson _ (withinDigits_schemaMetadata schema)⟩

/-- The metadata of a schema is read back, tells schemas apart, and is all that the
reader accepts, in any spelling: of a text with another tree nothing is returned. -/
theorem schema_metadata_reading :
    (∀ schema, schemaFromMetadataJson (Text.ofString (canonicalSchemaJson schema)) = .ok schema) ∧
    (∀ schema other, canonicalSchemaJson schema = canonicalSchemaJson other → schema = other) ∧
    (∀ metadataJson schema, schemaFromMetadataJson metadataJson = .ok schema ↔
      ∃ tree, JsonText.Document metadataJson tree ∧
        JsonText.Denotes tree (schemaMetadata schema)) ∧
    ∀ metadataJson tree, JsonText.Document metadataJson tree →
      (Faulty tree ∨ ∀ schema, ¬ JsonText.Denotes tree (schemaMetadata schema)) →
      ∃ refusal, schemaFromMetadataJson metadataJson = .error refusal := by
  refine ⟨schemaFromMetadataJson_canonicalSchemaJson, fun _ _ h => canonicalSchemaJson_injective h,
    fun _ _ => schemaFromMetadataJson_eq_ok, ?_⟩
  intro metadataJson tree hdocument htree
  cases h : schemaFromMetadataJson metadataJson with
  | error refusal => exact ⟨refusal, rfl⟩
  | ok schema =>
    rcases schemaFromMetadataJson_eq_ok.mp h with ⟨own, hown, hdenotes⟩
    rw [← hdocument.unique hown] at hdenotes
    rcases htree with hfaulty | hnone
    · exact absurd hdenotes (hfaulty.not_denotes _ (namesOnce_schemaMetadata schema))
    · exact absurd hdenotes (hnone schema)

/-- The metadata of a schema with no fields, in another order and spelling. -/
theorem schema_metadata_reading_empty :
    schemaFromMetadataJson (Text.ofString
        "\x7b\"protocol\" : \"dfe\\u005fcanon_v1\", \"fields\":[]\x7d")
        = .ok ⟨protocolName, [], rfl, by simp⟩ ∧
      ∃ refusal, schemaFromMetadataJson (Text.ofString "[1.5]") = .error refusal := by
  constructor
  · decide +kernel
  · apply schema_metadata_reading.2.2.2 (Text.ofString "[1.5]") (.array [.float ['1', '.', '5']])
    · exact JsonText.document_iff_loads.mpr rfl
    · exact .inl (.item List.mem_cons_self .float)

end ForensicData.Canonical
