/-
ForensicData.Planning.ScopeValues — concrete values for the scope of a check.

A mapping gives values to the declared parameters of a check. Each value is
encoded under the field of its parameter, and the digest of all payloads is the
identity of the scope. A mapping may hold objects of any type; the code looks at
exact types only, so an object of another type is `other` here.
-/
import ForensicData.Contracts.CompiledChecks
import ForensicData.Canonical.FieldTheorems
import ForensicData.Lib.Agreement
import Mathlib.Data.List.Lex

namespace ForensicData.Planning

open ForensicData.Canonical
open ForensicData.Contracts
open ForensicData.Lib

def scopeValueRefusal (message : String) : Refusal :=
  { error := .scopeValueError, message }

/-! ## Mappings -/

/-- `ScopeInputValue`. -/
inductive ScopeInputValue where
  | integer (value : Int)
  | boolean (value : Bool)
  | text (value : PythonText)
  deriving DecidableEq

def ScopeInputValue.input : ScopeInputValue → CanonicalInput
  | .integer value => .integer value
  | .boolean value => .boolean value
  | .text value => .text value

/-- A value of a mapping, by its exact type. -/
inductive ScopeObject where
  | value (value : ScopeInputValue)
  | other
  deriving DecidableEq

/-- A key of a mapping; the keys that are no strings are told apart by a number. -/
inductive ScopeKey where
  | text (name : PythonText)
  | other (identity : ℕ)
  deriving DecidableEq

def ScopeKey.name : ScopeKey → Option PythonText
  | .text name => some name
  | .other _ => none

/-- A mapping of scope values. -/
structure ScopeMapping where
  entries : List (ScopeKey × ScopeObject)
  distinct : KeysOnce entries

/-- The keys of the mapping that are strings. -/
def ScopeMapping.names (mapping : ScopeMapping) : List PythonText :=
  mapping.entries.filterMap fun entry => entry.1.name

/-- A string of the contract as a key. -/
def nameKey (name : String) : ScopeKey := .text (codePoints name.toList)

def ScopeMapping.item (mapping : ScopeMapping) (name : String) : Option ScopeObject :=
  (mapping.entries.find? fun entry => decide (entry.1 = nameKey name)).map Prod.snd

/-! ## Resolved parameters -/

/-- The handler of both calls of `encode_payload`. -/
def payloadRefusal (what name : String) (field : FieldSchema) (refusal : Refusal) : Refusal :=
  if refusal.error.isInstance .payloadValidationError then
    scopeValueRefusal
      (s!"{what} parameter {reprText name} is invalid for logical type " ++
        s!"{reprText field.logicalType.value}: {refusal.message}")
  else refusal

/-- A parameter with its value and the payload of that value. -/
structure ResolvedScopeParameter where
  name : String
  field : FieldSchema
  value : ScopeInputValue
  canonicalPayload : Bytes
  nonblank : isBlank name = false
  named : field.name = name
  required : field.nullable = false
  encoded : encodePayload field value.input = .ok canonicalPayload

/-- `ResolvedScopeParameter(...)`. -/
def ResolvedScopeParameter.make (name : String) (field : FieldSchema) (value : ScopeInputValue)
    (canonicalPayload : Bytes) : Except Refusal ResolvedScopeParameter :=
  if nonblank : isBlank name = false then
    if named : field.name = name then
      if required : field.nullable = false then
        match hencoded : encodePayload field value.input with
        | .error refusal => .error (payloadRefusal "resolved scope" name field refusal)
        | .ok expectedPayload =>
          if hsame : canonicalPayload = expectedPayload then
            .ok { name, field, value, canonicalPayload, nonblank, named, required
                  encoded := hsame ▸ hencoded }
          else .error (scopeValueRefusal
            (s!"resolved scope parameter {reprText name} canonical payload does not " ++
              "match its typed value"))
      else .error (scopeValueRefusal "resolved scope parameters must be non-nullable")
    else .error (scopeValueRefusal
      "resolved scope parameter name must equal its FieldSchema name")
  else .error (scopeValueRefusal "resolved scope parameter name must be nonblank text")

theorem ResolvedScopeParameter.make_own (parameter : ResolvedScopeParameter) :
    ResolvedScopeParameter.make parameter.name parameter.field parameter.value
      parameter.canonicalPayload = .ok parameter := by
  have hencoded := parameter.encoded
  unfold ResolvedScopeParameter.make
  rw [dif_pos parameter.nonblank, dif_pos parameter.named, dif_pos parameter.required]
  split
  case h_1 refusal hrefusal =>
    rw [hencoded] at hrefusal
    cases hrefusal
  case h_2 payload hpayload =>
    rw [hencoded, Except.ok.injEq] at hpayload
    rw [dif_pos hpayload]

theorem ResolvedScopeParameter.make_eq_ok {name : String} {field : FieldSchema}
    {value : ScopeInputValue} {payload : Bytes} {parameter : ResolvedScopeParameter} :
    ResolvedScopeParameter.make name field value payload = .ok parameter ↔
      parameter.name = name ∧ parameter.field = field ∧ parameter.value = value ∧
        parameter.canonicalPayload = payload := by
  constructor
  · intro h
    unfold ResolvedScopeParameter.make at h
    split_ifs at h
    split at h
    · cases h
    · split_ifs at h
      rw [Except.ok.injEq] at h
      subst h
      exact ⟨rfl, rfl, rfl, rfl⟩
  · rintro ⟨rfl, rfl, rfl, rfl⟩
    exact parameter.make_own

/-! ## The digest of a scope -/

/-- `_scope_type_semantics`, with the keys in order. -/
def scopeTypeSemantics (field : FieldSchema) : Json :=
  .object
    ([("kind", .string field.logicalType.value),
      ("normalization", .string field.normalization.value)] ++
      match field.parameters with
      | .none => []
      | .decimal parameters =>
        [("precision", .int parameters.precision), ("scale", .int parameters.scale)]
      | .timestamp parameters => [("precision", .int parameters.precision)])

def resolvedParameterSemantics (parameter : ResolvedScopeParameter) : Json :=
  .object
    [("name", .string parameter.name),
     ("payload_hex", .string (String.ofList (hexText parameter.canonicalPayload))),
     ("type", scopeTypeSemantics parameter.field)]

/-- `_resolved_scope_semantics`, with the keys in order. -/
def resolvedScopeSemantics (parameters : List ResolvedScopeParameter) : Json :=
  .object
    [("canonical_protocol", .string protocolName),
     ("parameters", .array (parameters.map resolvedParameterSemantics)),
     ("semantic_protocol", .string semanticDigestProtocol)]

/-- The text whose digest identifies a scope. -/
def scopePreimage (parameters : List ResolvedScopeParameter) : String :=
  canonicalSemanticJson (resolvedScopeSemantics parameters)

/-- `semantic_digest_hex`. -/
def semanticDigestHex (sha256 : Sha256) (value : Json) : Sha256Hex :=
  Reporting.hexDigest sha256 (utf8Encode (canonicalSemanticJson value))

def resolvedScopeDigest (sha256 : Sha256) (parameters : List ResolvedScopeParameter) : Sha256Hex :=
  semanticDigestHex sha256 (resolvedScopeSemantics parameters)

/-- Resolved parameters with the digest of their payloads. -/
structure ResolvedScope (sha256 : Sha256) where
  parameters : List ResolvedScopeParameter
  scopeDigest : Sha256Hex
  distinct : (parameters.map ResolvedScopeParameter.name).Nodup
  digest_eq : scopeDigest = resolvedScopeDigest sha256 parameters

/-- `ResolvedScope(...)`. -/
def ResolvedScope.make (sha256 : Sha256) (parameters : List ResolvedScopeParameter)
    (scopeDigest : Sha256Hex) : Except Refusal (ResolvedScope sha256) :=
  if distinct : (parameters.map ResolvedScopeParameter.name).Nodup then
    if digest_eq : scopeDigest = resolvedScopeDigest sha256 parameters then
      .ok { parameters, scopeDigest, distinct, digest_eq }
    else .error (scopeValueRefusal
      "resolved scope digest does not match its canonical parameter values")
  else .error (scopeValueRefusal "resolved scope parameters must have unique names")

/-! ## Resolution -/

/-- `sorted(names)`: strings are ordered by their code points. -/
def sortedNames (names : List PythonText) : List PythonText :=
  names.insertionSort fun a b => a ≤ b

/-- `repr` of a text. -/
def shownName (name : PythonText) : String := "'" ++ String.ofList (name.flatMap shown) ++ "'"
where
  shown (point : Canonical.CodePoint) : List Char :=
    match charOf point with
    | some c => [c]
    | none => '\\' :: 'u' :: fixedDigits 16 4 point.val

/-- `repr` of a list of texts. -/
def shownNames (names : List PythonText) : String :=
  "[" ++ ", ".intercalate (names.map shownName) ++ "]"

/-- One round of the loop of `resolve_scope_values`. -/
def resolveParameter (mapping : ScopeMapping) (parameter : ScopeParameterDefinition) :
    Except Refusal ResolvedScopeParameter :=
  match mapping.item parameter.name with
  | none => .error { error := .keyError, message := reprText parameter.name }
  | some .other => .error (scopeValueRefusal
      (s!"scope parameter {reprText parameter.name} requires an exact integer, boolean, " ++
        "or string"))
  | some (.value value) => do
    let payload ← (encodePayload parameter.field value.input).mapError
      (payloadRefusal "scope" parameter.name parameter.field)
    ResolvedScopeParameter.make parameter.name parameter.field value payload

/-- `resolve_scope_values`. -/
def resolveScopeValues (sha256 : Sha256) (check : RowCheckDefinition) (mapping : ScopeMapping) :
    Except Refusal (ResolvedScope sha256) := do
  refuseIf (∃ entry ∈ mapping.entries, entry.1.name = none)
    (scopeValueRefusal "scope value keys must be strings")
  let expectedNames := sortedNames (check.scope.parameters.map fun p => codePoints p.name.toList)
  let actualNames := sortedNames mapping.names
  refuseIf (actualNames ≠ expectedNames) (scopeValueRefusal
    ("scope values must match declared parameters exactly: " ++
      s!"expected={shownNames expectedNames}, actual={shownNames actualNames}"))
  let parameters ← check.scope.parameters.mapM (resolveParameter mapping)
  ResolvedScope.make sha256 parameters (resolvedScopeDigest sha256 parameters)

end ForensicData.Planning
