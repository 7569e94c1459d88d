/-
ForensicData.Contracts.Evidence — the evidence policy of a run.

A run reads the policy twice: the comparison engine as it was compiled, and
publication and readback from the stored request, where it is a semantic
object. Both readers refuse a policy that names a field outside the fields
they compare.
-/
import ForensicData.Contracts.Compiler
import ForensicData.Lib.Json

namespace ForensicData.Contracts

open ForensicData.Canonical
open ForensicData.Lib

/-! ## The engine's reader -/

/-- `_evidence_actions`: one action for each field. A dictionary built from
distinct names is searched in order. -/
def evidenceActions (fields : List FieldSchema) (policy : EvidenceDefinition) :
    Except Refusal (List EvidenceAction) := do
  let overrides := policy.fields.map fun rule => (rule.fieldName, rule.action)
  let fieldNames := fields.map FieldSchema.name
  let unknown := (overrides.map Prod.fst).filter (· ∉ fieldNames)
  refuseIf (unknown.isEmpty = false)
    { error := .comparisonProtocolError
      message := "evidence policy references fields outside the comparison schema" }
  .ok (fields.map fun field => (overrides.lookup field.name).getD policy.unspecifiedFields)

/-! ## The stored request -/

/-- `_evidence_policy_semantics`. -/
def evidencePolicySemantics (policy : EvidenceDefinition) : Json :=
  .object
    [("ddl_capture", .string policy.ddlCapture.value),
     ("field_rules", .array (policy.fields.map fun rule =>
       .object [("action", .string rule.action.value), ("field_name", .string rule.fieldName)])),
     ("sql_capture", .string policy.sqlCapture.value),
     ("unspecified_fields", .string policy.unspecifiedFields.value)]

/-- `ComparisonField`. -/
structure ComparisonField where
  fieldName : String
  logicalType : LogicalType
  decimalPrecision : Option ℕ
  decimalScale : Option ℕ
  timestampPrecision : Option ℕ
  deriving DecidableEq, Repr

/-- `_comparison_field`. -/
def comparisonField (field : FieldSchema) : ComparisonField :=
  match field.parameters with
  | .decimal parameters =>
    { fieldName := field.name, logicalType := field.logicalType
      decimalPrecision := some parameters.precision, decimalScale := some parameters.scale
      timestampPrecision := none }
  | .timestamp parameters =>
    { fieldName := field.name, logicalType := field.logicalType
      decimalPrecision := none, decimalScale := none
      timestampPrecision := some parameters.precision }
  | .none =>
    { fieldName := field.name, logicalType := field.logicalType
      decimalPrecision := none, decimalScale := none, timestampPrecision := none }

@[simp] theorem comparisonField_fieldName (field : FieldSchema) :
    (comparisonField field).fieldName = field.name := by
  unfold comparisonField
  split <;> rfl

def storedIntegrity (message : String) : Refusal :=
  { error := .storedLifecycleIntegrityError, message }

/-- `_semantic_object`; a missing key reads as `none`. -/
def semanticObject (value : Option Json) (context : String) :
    Except Refusal (List (String × Json)) :=
  match value with
  | some (.object members) => .ok members
  | _ => .error (storedIntegrity s!"{context} must be a semantic object")

def semanticArray (value : Option Json) (context : String) : Except Refusal (List Json) :=
  match value with
  | some (.array items) => .ok items
  | _ => .error (storedIntegrity s!"{context} must be a semantic array")

def semanticText (value : Option Json) (context : String) : Except Refusal String :=
  match value with
  | some (.string text) =>
    if isBlank text then .error (storedIntegrity s!"{context} must be nonblank semantic text")
    else .ok text
  | _ => .error (storedIntegrity s!"{context} must be nonblank semantic text")

/-- `EvidenceAction(text)` under the handler of `_evidence_actions_from_request`. -/
def storedEvidenceAction (text : String) : Except Refusal EvidenceAction :=
  match EvidenceAction.ofValue text with
  | some action => .ok action
  | none => .error (storedIntegrity
      ("stored comparison evidence policy is invalid: " ++
        s!"reason={reprText text} is not a valid EvidenceAction"))

/-- The loop of `_evidence_actions_from_request`, with the rules read so far. -/
def readFieldRules (overrides : List (String × EvidenceAction)) (index : ℕ) :
    List Json → Except Refusal (List (String × EvidenceAction))
  | [] => .ok overrides
  | item :: rest => do
    let rule ← semanticObject item s!"comparison context evidence rule {index}"
    let fieldName ← semanticText (rule.lookup "field_name")
      s!"comparison context evidence rule {index} field"
    refuseIf (fieldName ∈ overrides.map Prod.fst)
      (storedIntegrity "comparison context evidence policy contains duplicate field rules")
    let actionText ← semanticText (rule.lookup "action")
      s!"comparison context evidence rule {index} action"
    let action ← storedEvidenceAction actionText
    readFieldRules (overrides ++ [(fieldName, action)]) (index + 1) rest

/-- `_evidence_actions_from_request`. -/
def evidenceActionsFromRequest (request : List (String × Json))
    (comparisonFields : List ComparisonField) : Except Refusal (List EvidenceAction) := do
  let policy ← semanticObject (request.lookup "evidence_policy")
    "comparison context evidence policy"
  let rules ← semanticArray (policy.lookup "field_rules")
    "comparison context evidence field rules"
  let defaultText ← semanticText (policy.lookup "unspecified_fields")
    "comparison context unspecified evidence action"
  let defaultAction ← storedEvidenceAction defaultText
  let overrides ← readFieldRules [] 0 rules
  let fieldNames := comparisonFields.map ComparisonField.fieldName
  let unknown := (overrides.map Prod.fst).filter (· ∉ fieldNames)
  refuseIf (unknown.isEmpty = false)
    (storedIntegrity ("comparison context evidence policy references fields outside the " ++
      "comparison schema"))
  .ok (fieldNames.map fun name => (overrides.lookup name).getD defaultAction)

/-! ## What the readers accept -/

/-- Every rule is for a field of the list. -/
def EvidenceDefinition.Within (policy : EvidenceDefinition) (fieldNames : List String) : Prop :=
  ∀ rule ∈ policy.fields, rule.fieldName ∈ fieldNames

/-- The rules are for distinct, nonblank names: what the compiler ensures. -/
structure EvidenceDefinition.WellNamed (policy : EvidenceDefinition) : Prop where
  nodup : (policy.fields.map EvidenceFieldPolicy.fieldName).Nodup
  nonblank : ∀ rule ∈ policy.fields, isBlank rule.fieldName = false

/-- The actions the policy assigns to the fields. -/
def EvidenceDefinition.actions (policy : EvidenceDefinition) (fieldNames : List String) :
    List EvidenceAction :=
  fieldNames.map fun name =>
    ((policy.fields.map fun rule => (rule.fieldName, rule.action)).lookup name).getD
      policy.unspecifiedFields

theorem unknown_isEmpty_iff (policy : EvidenceDefinition) (fieldNames : List String) :
    ¬ ((((policy.fields.map fun rule => (rule.fieldName, rule.action)).map Prod.fst).filter
      (· ∉ fieldNames)).isEmpty = false) ↔ policy.Within fieldNames := by
  simp [EvidenceDefinition.Within]

theorem evidenceActions_eq_ok {fields : List FieldSchema} {policy : EvidenceDefinition}
    {actions : List EvidenceAction} :
    evidenceActions fields policy = .ok actions ↔
      policy.Within (fields.map FieldSchema.name) ∧
        policy.actions (fields.map FieldSchema.name) = actions := by
  simp only [evidenceActions, bind_unit_eq_ok, refuseIf_eq_ok, Except.ok.injEq]
  rw [unknown_isEmpty_iff]
  simp only [EvidenceDefinition.actions, List.map_map, Function.comp_def]

theorem semanticText_string {text context : String} (h : isBlank text = false) :
    semanticText (some (.string text)) context = .ok text := by
  simp [semanticText, h]

theorem EvidenceAction.isBlank_value (action : EvidenceAction) : isBlank action.value = false := by
  cases action <;> decide

@[simp] theorem storedEvidenceAction_value (action : EvidenceAction) :
    storedEvidenceAction action.value = .ok action := by
  simp [storedEvidenceAction]

/-- The rules of a policy are read back as they are. -/
theorem readFieldRules_policy {rules : List EvidenceFieldPolicy}
    {overrides : List (String × EvidenceAction)} {index : ℕ}
    (hnodup : (overrides.map Prod.fst ++ rules.map EvidenceFieldPolicy.fieldName).Nodup)
    (hnonblank : ∀ rule ∈ rules, isBlank rule.fieldName = false) :
    readFieldRules overrides index (rules.map fun rule =>
        .object [("action", .string rule.action.value), ("field_name", .string rule.fieldName)]) =
      .ok (overrides ++ rules.map fun rule => (rule.fieldName, rule.action)) := by
  induction rules generalizing overrides index with
  | nil => simp [readFieldRules]
  | cons rule rules ih =>
    rw [List.forall_mem_cons] at hnonblank
    rw [List.map_cons, List.nodup_append] at hnodup
    obtain ⟨hoverrides, hrules, hdisjoint⟩ := hnodup
    rw [List.nodup_cons] at hrules
    have hfresh : rule.fieldName ∉ overrides.map Prod.fst := fun hmem =>
      hdisjoint _ hmem _ List.mem_cons_self rfl
    have htail := @ih (overrides ++ [(rule.fieldName, rule.action)]) (index + 1)
      (by
        rw [List.map_append, List.map_cons, List.map_nil, List.append_assoc, List.nodup_append]
        refine ⟨hoverrides, List.nodup_cons.mpr hrules, fun a ha b hb => ?_⟩
        exact hdisjoint a ha b hb)
      hnonblank.2
    have hfield : semanticText
        ([("action", Json.string rule.action.value),
          ("field_name", Json.string rule.fieldName)].lookup "field_name")
        s!"comparison context evidence rule {index} field" = .ok rule.fieldName :=
      semanticText_string hnonblank.1
    have haction : semanticText
        ([("action", Json.string rule.action.value),
          ("field_name", Json.string rule.fieldName)].lookup "action")
        s!"comparison context evidence rule {index} action" = .ok rule.action.value :=
      semanticText_string rule.action.isBlank_value
    simp only [List.map_cons, readFieldRules, semanticObject]
    rw [bind_eq_ok]
    refine ⟨_, rfl, ?_⟩
    rw [bind_eq_ok]
    refine ⟨_, hfield, ?_⟩
    rw [bind_unit_eq_ok]
    refine ⟨refuseIf_eq_ok.mpr hfresh, ?_⟩
    rw [bind_eq_ok]
    refine ⟨_, haction, ?_⟩
    rw [bind_eq_ok]
    refine ⟨_, storedEvidenceAction_value _, ?_⟩
    rw [htail, List.append_assoc]
    rfl

theorem evidenceActionsFromRequest_eq_ok {request : List (String × Json)}
    {comparisonFields : List ComparisonField} {policy : EvidenceDefinition}
    {actions : List EvidenceAction} (hwell : policy.WellNamed)
    (hrequest : request.lookup "evidence_policy" = some (evidencePolicySemantics policy)) :
    evidenceActionsFromRequest request comparisonFields = .ok actions ↔
      policy.Within (comparisonFields.map ComparisonField.fieldName) ∧
        policy.actions (comparisonFields.map ComparisonField.fieldName) = actions := by
  have hrules := @readFieldRules_policy policy.fields [] 0 (by simpa using hwell.nodup)
    hwell.nonblank
  have hdefault : semanticText (some (.string policy.unspecifiedFields.value))
      "comparison context unspecified evidence action" = .ok policy.unspecifiedFields.value :=
    semanticText_string policy.unspecifiedFields.isBlank_value
  have hread : evidenceActionsFromRequest request comparisonFields = (do
      let overrides := policy.fields.map fun rule => (rule.fieldName, rule.action)
      let fieldNames := comparisonFields.map ComparisonField.fieldName
      refuseIf (((overrides.map Prod.fst).filter (· ∉ fieldNames)).isEmpty = false)
        (storedIntegrity ("comparison context evidence policy references fields outside the " ++
          "comparison schema"))
      .ok (fieldNames.map fun name => (overrides.lookup name).getD policy.unspecifiedFields)) := by
    unfold evidenceActionsFromRequest
    rw [hrequest]
    change (semanticText (some (.string policy.unspecifiedFields.value))
      "comparison context unspecified evidence action" >>= _) = _
    rw [hdefault]
    change (storedEvidenceAction policy.unspecifiedFields.value >>= _) = _
    rw [storedEvidenceAction_value]
    change (readFieldRules [] 0 _ >>= _) = _
    rw [hrules]
    rfl
  rw [hread]
  simp only [bind_unit_eq_ok, refuseIf_eq_ok, unknown_isEmpty_iff, Except.ok.injEq,
    EvidenceDefinition.actions]

end ForensicData.Contracts
