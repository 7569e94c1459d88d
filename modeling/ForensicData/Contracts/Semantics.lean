/-
ForensicData.Contracts.Semantics — the canonical text of semantic metadata.

A semantic value is null, a boolean, an exact integer, a string of Unicode
scalars, a sequence or an object. Its canonical text is compact JSON with sorted
keys; parsing that text and writing the value again gives the same text, and
values with one text are the same JSON value up to the order of their members
(`semantic_json_canonical`).
-/
import ForensicData.Contracts.Model
import ForensicData.Lib.PyValue

namespace ForensicData.Contracts.Semantics

open ForensicData.Lib

/-! ## Validation -/

/-- `_validate_unicode_scalars`, with the string that passes it. -/
def validateUnicodeScalars (value : Text) (context : String) : Except Refusal String :=
  value.readString.mapError fun index =>
    contractValidation s!"{context} contains a surrogate code point at character {index}"

mutual

/-- `_validate_semantic_value`, with the JSON value that passes it. -/
def validateSemanticValue (context : String) : PyValue → Except Refusal Json
  | .none => .ok .null
  | .bool value => .ok (.bool value)
  | .int value => .ok (.int value)
  | .str value => (validateUnicodeScalars value context).map .string
  | .tuple items => (validateItems context 0 items).map .array
  | .list items => (validateItems context 0 items).map .array
  | .dict members => (validateMembers context members).map .object

def validateItems (context : String) (index : ℕ) : List PyValue → Except Refusal (List Json)
  | [] => .ok []
  | item :: items => do
    let item ← validateSemanticValue s!"{context}[{index}]" item
    (validateItems context (index + 1) items).map fun items => item :: items

def validateMembers (context : String) :
    List (Text × PyValue) → Except Refusal (List (String × Json))
  | [] => .ok []
  | (key, value) :: members => do
    let key ← validateUnicodeScalars key s!"{context} object key"
    let value ← validateSemanticValue s!"{context}.{key}" value
    (validateMembers context members).map fun members => (key, value) :: members

end

/-! ## Writing and parsing -/

/-- `json.dumps` with sorted keys and compact separators. -/
def dumps (value : Json) : Except Refusal Text := do
  refuseIf (value.withinDigits = false)
    { error := .valueError
      message := "Exceeds the limit (4300 digits) for integer string conversion; "
        ++ "use sys.set_int_max_str_digits() to increase the limit" }
  return Text.ofChars value.sorted.render

/-- `canonical_semantic_json`. -/
def canonicalSemanticJson (value : PyValue) : Except Refusal Text := do
  let json ← validateSemanticValue "semantic metadata" value
  dumps json

/-- `repr` of a text. -/
def keyText (key : Text) : String := "'" ++ String.ofList (key.flatMap shown) ++ "'"
where
  shown : Lib.CodePoint → List Char
    | .scalar c => [c]
    | .surrogate index => '\\' :: 'u' :: fixedDigits 16 4 (0xD800 + index)

/-- `repr` of a token, which holds neither quotes nor backslashes. -/
def tokenText (token : List Char) : String := s!"'{String.ofList token}'"

/-- The hooks that `semantic_value_from_json` gives to `json.loads`. -/
def loadFaults : JsonFaults Refusal where
  malformed := contractValidation "semantic metadata is not valid JSON"
  duplicate key := contractValidation
    s!"semantic metadata JSON contains duplicate object key {keyText key}"
  float token := contractValidation
    s!"semantic metadata JSON numbers must be exact integers, got {tokenText token}"
  integer token := contractValidation
    s!"semantic metadata JSON integer is too large to validate: digits={token.length}"
  constant token := contractValidation
    s!"semantic metadata JSON does not permit non-finite number {tokenText token}"

/-- `semantic_value_from_json`. -/
def semanticValueFromJson (metadataJson : Text) : Except Refusal PyValue := do
  let value ← JsonText.loads (loadHooks loadFaults) metadataJson
  let _ ← validateSemanticValue "semantic metadata" value
  return value

/-- `canonicalize_semantic_json`. -/
def canonicalizeSemanticJson (metadataJson : Text) : Except Refusal Text := do
  let value ← semanticValueFromJson metadataJson
  canonicalSemanticJson value

/-! ## What is valid -/

theorem validateUnicodeScalars_eq_ok {value : Text} {context text : String} :
    validateUnicodeScalars value context = .ok text ↔ value = Text.ofString text := by
  rw [validateUnicodeScalars, mapError_eq_ok, Text.readString_eq_ok]

mutual

theorem validateSemanticValue_eq_ok (context : String) (value : PyValue) (json : Json) :
    validateSemanticValue context value = .ok json ↔ value.listed = PyValue.ofJson json := by
  match value with
  | .none => cases json <;> simp [validateSemanticValue, PyValue.listed, PyValue.ofJson]
  | .bool _ => cases json <;> simp [validateSemanticValue, PyValue.listed, PyValue.ofJson]
  | .int _ => cases json <;> simp [validateSemanticValue, PyValue.listed, PyValue.ofJson]
  | .str value =>
    rw [validateSemanticValue, JsonText.map_eq_ok]
    simp only [validateUnicodeScalars_eq_ok, PyValue.listed]
    cases json <;> simp [PyValue.ofJson]
  | .tuple items =>
    rw [validateSemanticValue, JsonText.map_eq_ok, PyValue.listed]
    simp only [validateItems_eq_ok context 0 items]
    cases json <;> simp [PyValue.ofJson]
  | .list items =>
    rw [validateSemanticValue, JsonText.map_eq_ok, PyValue.listed]
    simp only [validateItems_eq_ok context 0 items]
    cases json <;> simp [PyValue.ofJson]
  | .dict members =>
    rw [validateSemanticValue, JsonText.map_eq_ok, PyValue.listed]
    simp only [validateMembers_eq_ok context members]
    cases json <;> simp [PyValue.ofJson]

theorem validateItems_eq_ok (context : String) (index : ℕ) (items : List PyValue)
    (values : List Json) :
    validateItems context index items = .ok values ↔
      PyValue.listedItems items = PyValue.ofJsonItems values := by
  match items with
  | [] => cases values <;> simp [validateItems, PyValue.listedItems, PyValue.ofJsonItems]
  | item :: items =>
    rw [validateItems, bind_eq_ok, PyValue.listedItems]
    simp only [JsonText.map_eq_ok, validateSemanticValue_eq_ok s!"{context}[{index}]" item,
      validateItems_eq_ok context (index + 1) items]
    cases values with
    | nil => simp [PyValue.ofJsonItems]
    | cons value values => simp [PyValue.ofJsonItems]

theorem validateMembers_eq_ok (context : String) (members : List (Text × PyValue))
    (values : List (String × Json)) :
    validateMembers context members = .ok values ↔
      PyValue.listedMembers members = PyValue.ofJsonMembers values := by
  match members with
  | [] => cases values <;> simp [validateMembers, PyValue.listedMembers, PyValue.ofJsonMembers]
  | (key, value) :: members =>
    rw [validateMembers, bind_eq_ok, PyValue.listedMembers]
    simp only [bind_eq_ok, JsonText.map_eq_ok, validateUnicodeScalars_eq_ok,
      fun name : String => validateSemanticValue_eq_ok s!"{context}.{name}" value,
      validateMembers_eq_ok context members]
    cases values with
    | nil => simp [PyValue.ofJsonMembers]
    | cons first values =>
      rcases first with ⟨name, json⟩
      simp [PyValue.ofJsonMembers, and_assoc]

end

/-! ## The canonical form -/

theorem canonicalSemanticJson_eq_ok {value : PyValue} {text : Text} :
    canonicalSemanticJson value = .ok text ↔ ∃ json : Json, value.listed = PyValue.ofJson json ∧
      json.withinDigits = true ∧ text = Text.ofChars json.sorted.render := by
  simp only [canonicalSemanticJson, bind_eq_ok, validateSemanticValue_eq_ok, dumps, refuseIf_eq_ok,
    pure_eq_ok, Bool.not_eq_false]
  constructor
  · rintro ⟨json, hvalue, -, hdigits, rfl⟩
    exact ⟨json, hvalue, hdigits, rfl⟩
  · rintro ⟨json, hvalue, hdigits, rfl⟩
    exact ⟨json, hvalue, (), hdigits, rfl⟩

theorem semanticValueFromJson_eq_ok {metadataJson : Text} {value : PyValue} :
    semanticValueFromJson metadataJson = .ok value ↔
      JsonText.loads (loadHooks loadFaults) metadataJson = .ok value ∧
        ∃ json, value.listed = PyValue.ofJson json := by
  simp only [semanticValueFromJson, bind_eq_ok, validateSemanticValue_eq_ok, pure_eq_ok]
  constructor
  · rintro ⟨read, hread, json, hjson, rfl⟩
    exact ⟨hread, json, hjson⟩
  · rintro ⟨hread, json, hjson⟩
    exact ⟨value, hread, json, hjson, rfl⟩

/-- The canonical text is parsed, and written again. -/
theorem canonicalSemanticJson_roundTrip {value : PyValue} {text : Text} (hkeys : value.KeysOnce)
    (h : canonicalSemanticJson value = .ok text) :
    ∃ read, semanticValueFromJson text = .ok read ∧ canonicalSemanticJson read = .ok text := by
  rcases canonicalSemanticJson_eq_ok.mp h with ⟨json, hvalue, hdigits, rfl⟩
  have hnames := Json.namesOnce_sorted json (PyValue.namesOnce_of_listed value json hkeys hvalue)
  have hwithin := Json.withinDigits_sorted json hdigits
  have hlisted := PyValue.listed_ofJson json.sorted
  refine ⟨PyValue.ofJson json.sorted, ?_, ?_⟩
  · rw [semanticValueFromJson_eq_ok]
    exact ⟨loads_render json.sorted hnames hwithin, json.sorted, hlisted⟩
  · rw [canonicalSemanticJson_eq_ok]
    exact ⟨json.sorted, hlisted, hwithin, by rw [Json.sorted_sorted]⟩

/-- Values have one text exactly when they are the same JSON value. -/
theorem canonicalSemanticJson_eq_iff {value other : PyValue} {text text' : Text}
    (hkeys : value.KeysOnce) (hkeys' : other.KeysOnce)
    (h : canonicalSemanticJson value = .ok text) (h' : canonicalSemanticJson other = .ok text') :
    text = text' ↔ value.SameJson other := by
  rcases canonicalSemanticJson_eq_ok.mp h with ⟨json, hvalue, -, rfl⟩
  rcases canonicalSemanticJson_eq_ok.mp h' with ⟨json', hother, -, rfl⟩
  have hnames := PyValue.namesOnce_of_listed value json hkeys hvalue
  have hnames' := PyValue.namesOnce_of_listed other json' hkeys' hother
  rw [Text.ofChars_injective.eq_iff, Json.render_injective.eq_iff,
    ← Json.same_iff_sorted json json' hnames hnames']
  constructor
  · intro hsame
    exact ⟨json, json', hvalue, hother, hsame⟩
  · rintro ⟨own, own', hown, hown', hsame⟩
    rw [PyValue.ofJson_inj json own (hvalue.symm.trans hown),
      PyValue.ofJson_inj json' own' (hother.symm.trans hown')]
    exact hsame

theorem semanticValueFromJson_faulty {metadataJson : Text} {tree : JsonText.Tree}
    (hdocument : JsonText.Document metadataJson tree) (hfaulty : Faulty tree) :
    ∃ refusal, semanticValueFromJson metadataJson = .error refusal := by
  cases h : semanticValueFromJson metadataJson with
  | error refusal => exact ⟨refusal, rfl⟩
  | ok value =>
    rcases semanticValueFromJson_eq_ok.mp h with ⟨hloads, json, hjson⟩
    rw [hdocument.loads] at hloads
    exact absurd hjson (hfaulty.refused hloads json)

/-- A value with its members and its sequence in one spelling. -/
def tupleValue : PyValue :=
  .dict [(Text.ofString "b", .bool true), (Text.ofString "a", .tuple [.int 1])]

/-- The same value in another spelling. -/
def listValue : PyValue :=
  .dict [(Text.ofString "a", .list [.int 1]), (Text.ofString "b", .bool true)]

end ForensicData.Contracts.Semantics
