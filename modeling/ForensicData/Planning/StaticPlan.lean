/-
ForensicData.Planning.StaticPlan — the report of a plan that nothing has run.

Each record of a plan validates itself when it is built, so a record here is its
fields together with the fact that they pass (`Validated`). A report restates
what the compiler has checked of its check, and compares the artifacts and the
probes with what the two datasets require.
-/
import ForensicData.Planning.ScopeTheorems

namespace ForensicData.Planning

open ForensicData.Canonical
open ForensicData.Contracts

/-! ## Validated records -/

/-- The fields a model accepts. -/
abbrev Validated {Fields : Type} (validate : Fields → Except Refusal Unit) :=
  { fields : Fields // validate fields = .ok () }

/-- A model of its fields: the validators run when it is built. -/
def validated {Fields : Type} (validate : Fields → Except Refusal Unit) (fields : Fields) :
    Except Refusal (Validated validate) :=
  match h : validate fields with
  | .error refusal => .error refusal
  | .ok () => .ok ⟨fields, h⟩

theorem validated_eq_ok {Fields : Type} {validate : Fields → Except Refusal Unit}
    {fields : Fields} (h : validate fields = .ok ()) :
    validated validate fields = .ok ⟨fields, h⟩ := by
  unfold validated
  split
  case h_1 refusal hrefusal =>
    rw [h] at hrefusal
    cases hrefusal
  case h_2 => rfl

def planRefusal (message : String) : Refusal := { error := .valueError, message }

instance (value : String) : Decidable (IsPlain value) :=
  inferInstanceAs (Decidable (_ ∉ _))

/-- `validate_unicode_text` over the texts of a model; a `String` has no surrogates
to refuse. -/
def requirePlainTexts (values : List String) : Except Refusal Unit :=
  refuseIf (¬ ∀ value ∈ values, IsPlain value)
    (planRefusal "plan text must contain only non-null Unicode scalar values")

/-- `Field(pattern=r"^[0-9a-f]{64}$")`. -/
def requireDigestHex (value : String) : Except Refusal Unit :=
  refuseIf (isSha256Hex value = false)
    (planRefusal "String should match pattern '^[0-9a-f]\x7b64\x7d$'")

/-! ## Enumerations -/

inductive PlanDirection where
  | reference
  | target
  deriving DecidableEq, Repr

inductive ArtifactPurpose where
  | projection
  | readiness
  deriving DecidableEq, Repr

inductive LocatorKind where
  | relation
  | sql
  deriving DecidableEq, Repr

/-- `PlanProbeStatus`, which has one member. -/
inductive PlanProbeStatus where
  | requiredNotRun
  deriving DecidableEq, Repr

/-- `PlanStageStatus`, which has one member. -/
inductive PlanStageStatus where
  | plannedNotRun
  deriving DecidableEq, Repr

/-- `EstimateStatus`, which has one member. -/
inductive EstimateStatus where
  | unknown
  deriving DecidableEq, Repr

/-! ## Parameters -/

structure PlanLogicalTypeFields where
  kind : String
  precision : Option Int
  scale : Option Int

/-- `LogicalType(kind)`. -/
def logicalTypeOfKind (kind : String) : Option LogicalType :=
  [LogicalType.int64, .decimal, .boolean, .string, .date, .timestampLocal,
    .timestampInstant].find? fun logicalType => decide (logicalType.value = kind)

/-- `validate_type_parameters`. -/
def PlanLogicalTypeFields.validate (fields : PlanLogicalTypeFields) : Except Refusal Unit := do
  requirePlainTexts [fields.kind]
  match logicalTypeOfKind fields.kind with
  | none => raiseValueError s!"unsupported plan logical type {reprText fields.kind}"
  | some .decimal =>
    match fields.precision, fields.scale with
    | some precision, some scale =>
      refuseIf (¬ (1 ≤ precision ∧ precision ≤ 38 ∧ 0 ≤ scale ∧ scale ≤ precision))
        (planRefusal "decimal plan type requires precision 1..38 and scale 0..precision")
    | _, _ => raiseValueError "decimal plan type requires precision 1..38 and scale 0..precision"
  | some .timestampLocal => timestamp
  | some .timestampInstant => timestamp
  | some _ =>
    refuseIf (fields.precision.isSome = true ∨ fields.scale.isSome = true)
      (planRefusal
        s!"plan logical type {reprText fields.kind} does not accept precision or scale")
where
  timestamp : Except Refusal Unit :=
    refuseIf (¬ ((∃ precision ∈ fields.precision, 0 ≤ precision ∧ precision ≤ 9) ∧
        fields.scale = none))
      (planRefusal "timestamp plan type requires precision 0..9 and no scale")

abbrev PlanLogicalType := Validated PlanLogicalTypeFields.validate

structure PlanParameterFields where
  name : String
  type : PlanLogicalType

def PlanParameterFields.validate (fields : PlanParameterFields) : Except Refusal Unit :=
  requirePlainTexts [fields.name]

abbrev PlanParameter := Validated PlanParameterFields.validate

/-! ## Readiness -/

def requireNonblank (value message : String) : Except Refusal Unit :=
  refuseIf (isBlank value = true) (planRefusal message)

structure PlanSqlReadinessFields where
  connectionId : String

def PlanSqlReadinessFields.validate (fields : PlanSqlReadinessFields) : Except Refusal Unit := do
  requirePlainTexts [fields.connectionId]
  requireNonblank fields.connectionId "SQL readiness connection id must be nonblank"

abbrev PlanSqlReadiness := Validated PlanSqlReadinessFields.validate

/-- `PlanReadinessManifestColumns.validate_columns`. -/
def validateManifestColumns (columns : ReadinessManifestColumns) : Except Refusal Unit := do
  requirePlainTexts columns.values
  refuseIf ("" ∈ columns.values ∨ ¬ columns.values.Nodup)
    (planRefusal "relation manifest plan requires eight distinct nonempty column mappings")

abbrev PlanReadinessManifestColumns := Validated validateManifestColumns

/-- `PlanReadinessRelation.validate_relation`. -/
def validateReadinessRelation (relation : RelationLocator) : Except Refusal Unit := do
  requirePlainTexts (relation.catalog.toList ++ [relation.schema, relation.name])
  refuseIf (relation.catalog.isSome = true)
    (planRefusal "PostgreSQL readiness plan relation catalog must be null")
  refuseIf (relation.schema = "" ∨ relation.name = "")
    (planRefusal "readiness plan relation requires nonempty schema and name")
  refuseIf (relation.relationScope ≠ .physicalOnly)
    (planRefusal "readiness plan relation requires physical_only scope")

abbrev PlanReadinessRelation := Validated validateReadinessRelation

structure PlanManifestReadinessFields where
  connectionId : String
  relation : PlanReadinessRelation
  columns : PlanReadinessManifestColumns

def PlanManifestReadinessFields.validate (fields : PlanManifestReadinessFields) :
    Except Refusal Unit := do
  requirePlainTexts [fields.connectionId]
  requireNonblank fields.connectionId "relation manifest readiness connection id must be nonblank"

abbrev PlanRelationManifestReadiness := Validated PlanManifestReadinessFields.validate

/-- A readiness, told apart by its `kind`. -/
inductive PlanReadiness where
  | sql (readiness : PlanSqlReadiness)
  | relationManifest (readiness : PlanRelationManifestReadiness)

def PlanReadiness.connectionId : PlanReadiness → String
  | .sql readiness => readiness.1.connectionId
  | .relationManifest readiness => readiness.1.connectionId

def PlanReadiness.isSql : PlanReadiness → Bool
  | .sql _ => true
  | .relationManifest _ => false

/-! ## Datasets, artifacts and steps -/

structure PlanDatasetFields where
  direction : PlanDirection
  datasetId : String
  datasetDigest : String
  connectionId : String
  adapter : Adapter
  driver : String
  profile : String
  locatorKind : LocatorKind
  relationScope : Option RelationScope
  readiness : PlanReadiness

/-- The validators of `PlanDataset`. -/
def PlanDatasetFields.validate (fields : PlanDatasetFields) : Except Refusal Unit := do
  requireDigestHex fields.datasetDigest
  requirePlainTexts
    [fields.datasetId, fields.datasetDigest, fields.connectionId, fields.driver, fields.profile]
  requireNonblank fields.datasetId "plan dataset id must be nonblank"
  requireNonblank fields.connectionId "plan connection id must be nonblank"
  requireNonblank fields.driver "plan connection driver must be nonblank"
  requireNonblank fields.profile "plan connection profile must be nonblank"
  refuseIf (fields.locatorKind = .relation ∧ fields.relationScope = none) (planRefusal
    "relation plan dataset requires physical_only or frozen_physical_union scope")
  refuseIf (fields.locatorKind = .sql ∧ fields.relationScope.isSome = true)
    (planRefusal "SQL plan dataset cannot carry a relation scope")
  refuseIf (fields.readiness.connectionId ≠ fields.connectionId)
    (planRefusal "plan readiness must inherit its dataset connection")

abbrev PlanDataset := Validated PlanDatasetFields.validate

structure PlanArtifactFields where
  purpose : ArtifactPurpose
  direction : PlanDirection
  datasetId : String
  dialect : SqlDialect
  contentSha256 : String
  parameters : List PlanParameter

/-- The validators of `PlanArtifact`. -/
def PlanArtifactFields.validate (fields : PlanArtifactFields) : Except Refusal Unit := do
  requireDigestHex fields.contentSha256
  requirePlainTexts [fields.datasetId, fields.contentSha256]
  requireNonblank fields.datasetId "plan artifact dataset id must be nonblank"
  let names := fields.parameters.map fun parameter => parameter.1.name
  refuseIf ((∃ name ∈ names, isBlank name = true) ∨ ¬ names.Nodup)
    (planRefusal "plan artifact parameters require unique nonblank names")

abbrev PlanArtifact := Validated PlanArtifactFields.validate

structure PlanProbeFields where
  name : String
  status : PlanProbeStatus
  direction : PlanDirection
  datasetId : String

def PlanProbeFields.validate (fields : PlanProbeFields) : Except Refusal Unit :=
  requirePlainTexts [fields.name, fields.datasetId]

abbrev PlanProbe := Validated PlanProbeFields.validate

structure PlanStageFields where
  name : String
  status : PlanStageStatus

def PlanStageFields.validate (fields : PlanStageFields) : Except Refusal Unit :=
  requirePlainTexts [fields.name]

abbrev PlanStage := Validated PlanStageFields.validate

structure PlanEstimateFields where
  name : String
  status : EstimateStatus
  unit : String

def PlanEstimateFields.validate (fields : PlanEstimateFields) : Except Refusal Unit :=
  requirePlainTexts [fields.name, fields.unit]

abbrev PlanEstimate := Validated PlanEstimateFields.validate

/-! ## Reports -/

structure PlanReportFields where
  schemaVersion : Int
  configVersion : Int
  semanticDigestProtocol : String
  canonicalProtocol : String
  checkId : String
  revision : Int
  invariant : String
  assurancePolicy : AssurancePolicy
  logicalSchemaDigest : String
  contractDigest : String
  scopeDigest : String
  reference : PlanDataset
  target : PlanDataset
  orderedKey : List String
  artifacts : List PlanArtifact
  probes : List PlanProbe
  stages : List PlanStage
  estimates : List PlanEstimate
  limitations : List String

/-- `_expected_stage_names`. -/
def expectedStageNames (assurancePolicy : AssurancePolicy) : List String :=
  ["open_read_contexts", "evaluate_readiness", "validate_key_contract"] ++
    (match assurancePolicy with
      | .exactRequired => ["compare_exact_scope"]
      | .fingerprintAllowed => ["compare_fingerprints", "compare_exact_leaves"]) ++
    ["persist_result"]

def expectedEstimates : List (String × String) :=
  [("reference_rows", "records"), ("target_rows", "records"), ("reference_bytes", "bytes"),
    ("target_bytes", "bytes"), ("queries", "queries")]

def probeNames : List String :=
  ["endpoint_capability", "relation_or_projection_schema", "readiness", "stable_read_context"]

def PlanReportFields.dataset (plan : PlanReportFields) : PlanDirection → PlanDataset
  | .reference => plan.reference
  | .target => plan.target

/-- The texts of the three refusals of a loop over directed records. -/
structure DirectedTexts where
  dataset : String
  duplicate : String
  mismatch : String

/-- The loop of `_validate_plan_artifacts` and of `_validate_plan_probes`, over the
dataset id and the identity of each record, with the identities seen so far. -/
def validateDirected {Tag : Type} [DecidableEq Tag] (texts : DirectedTexts)
    (datasetId : PlanDirection → String) (seen : List (PlanDirection × Tag)) :
    List (String × PlanDirection × Tag) → Except Refusal (List (PlanDirection × Tag))
  | [] => .ok seen
  | (recordId, identity) :: rest => do
    refuseIf (recordId ≠ datasetId identity.1) (planRefusal texts.dataset)
    refuseIf (identity ∈ seen) (planRefusal texts.duplicate)
    validateDirected texts datasetId (seen ++ [identity]) rest

/-- The comparison of two sets of identities. -/
def requireSameIdentities {Tag : Type} [DecidableEq Tag] (texts : DirectedTexts)
    (seen expected : List (PlanDirection × Tag)) : Except Refusal Unit :=
  refuseIf (¬ ((∀ identity ∈ seen, identity ∈ expected) ∧ ∀ identity ∈ expected, identity ∈ seen))
    (planRefusal texts.mismatch)

def artifactTexts : DirectedTexts where
  dataset := "plan artifact dataset does not match its direction"
  duplicate := "plan artifacts contain a duplicate direction/purpose"
  mismatch := "plan artifacts do not match dataset locators and readiness requirements"

def probeTexts : DirectedTexts where
  dataset := "plan probe dataset does not match its direction"
  duplicate := "plan probes contain a duplicate direction/name"
  mismatch := "plan probes do not contain the required version-1 probe set"

/-- The artifacts that one dataset requires. -/
def requiredArtifacts (direction : PlanDirection) (dataset : PlanDataset) :
    List (PlanDirection × ArtifactPurpose) :=
  (if dataset.1.locatorKind = .sql then [(direction, .projection)] else []) ++
    if dataset.1.readiness.isSql then [(direction, .readiness)] else []

/-- `_validate_plan_artifacts`. -/
def validatePlanArtifacts (plan : PlanReportFields) : Except Refusal Unit := do
  let seen ← validateDirected artifactTexts (fun direction => (plan.dataset direction).1.datasetId)
    [] (plan.artifacts.map fun artifact =>
      (artifact.1.datasetId, artifact.1.direction, artifact.1.purpose))
  requireSameIdentities artifactTexts seen
    (requiredArtifacts .reference plan.reference ++ requiredArtifacts .target plan.target)

/-- `_validate_plan_probes`. -/
def validatePlanProbes (plan : PlanReportFields) : Except Refusal Unit := do
  let seen ← validateDirected probeTexts (fun direction => (plan.dataset direction).1.datasetId)
    [] (plan.probes.map fun probe => (probe.1.datasetId, probe.1.direction, probe.1.name))
  requireSameIdentities probeTexts seen
    ([PlanDirection.reference, .target].flatMap fun direction =>
      probeNames.map fun name => (direction, name))

/-- The validators of the fields of `PlanReport`. -/
def PlanReportFields.validateFields (plan : PlanReportFields) : Except Refusal Unit := do
  refuseIf (plan.schemaVersion ≠ 1 ∨ plan.configVersion ≠ 1)
    (planRefusal "plan versions must be the exact integer 1")
  refuseIf (plan.semanticDigestProtocol ≠ "dfe_semantic_v1")
    (planRefusal "Input should be 'dfe_semantic_v1'")
  refuseIf (plan.canonicalProtocol ≠ "dfe_canon_v1") (planRefusal "Input should be 'dfe_canon_v1'")
  refuseIf (plan.revision < 1) (planRefusal "Input should be greater than or equal to 1")
  refuseIf (plan.invariant ≠ "row_equivalence") (planRefusal "Input should be 'row_equivalence'")
  requireDigestHex plan.logicalSchemaDigest
  requireDigestHex plan.contractDigest
  requireDigestHex plan.scopeDigest
  requirePlainTexts
    ([plan.semanticDigestProtocol, plan.canonicalProtocol, plan.checkId, plan.invariant,
      plan.logicalSchemaDigest, plan.contractDigest, plan.scopeDigest] ++ plan.orderedKey ++
        plan.limitations)

/-- `validate_plan_semantics`. -/
def PlanReportFields.validateSemantics (plan : PlanReportFields) : Except Refusal Unit := do
  requireNonblank plan.checkId "plan check_id must be nonblank"
  refuseIf (plan.reference.1.direction ≠ .reference)
    (planRefusal "plan reference dataset direction must be reference")
  refuseIf (plan.target.1.direction ≠ .target)
    (planRefusal "plan target dataset direction must be target")
  refuseIf (plan.reference.1.datasetId = plan.target.1.datasetId)
    (planRefusal "plan reference and target datasets must differ")
  refuseIf (plan.orderedKey = [] ∨ ∃ name ∈ plan.orderedKey, isBlank name = true)
    (planRefusal "plan ordered key must contain nonblank fields")
  refuseIf (¬ plan.orderedKey.Nodup) (planRefusal "plan ordered key must not contain duplicates")
  validatePlanArtifacts plan
  validatePlanProbes plan
  refuseIf (plan.stages.map (fun stage => stage.1.name) ≠ expectedStageNames plan.assurancePolicy)
    (planRefusal "plan stages do not match the requested assurance policy")
  refuseIf (plan.estimates.map (fun estimate => (estimate.1.name, estimate.1.unit))
      ≠ expectedEstimates)
    (planRefusal "plan estimates must contain the version-1 unknown estimate set")
  refuseIf (plan.limitations = [] ∨ ∃ value ∈ plan.limitations, isBlank value = true)
    (planRefusal "plan limitations must contain nonblank disclosures")

def PlanReportFields.validate (plan : PlanReportFields) : Except Refusal Unit := do
  plan.validateFields
  plan.validateSemantics

abbrev PlanReport := Validated PlanReportFields.validate

/-! ## Building a plan -/

/-- `_plan_logical_type`. -/
def planLogicalType (field : FieldSchema) : Except Refusal PlanLogicalType :=
  validated PlanLogicalTypeFields.validate
    (match field.parameters with
      | .none => { kind := field.logicalType.value, precision := none, scale := none }
      | .decimal parameters =>
        { kind := field.logicalType.value, precision := some parameters.precision
          scale := some parameters.scale }
      | .timestamp parameters =>
        { kind := field.logicalType.value, precision := some parameters.precision
          scale := none })

/-- `_plan_parameter`. -/
def planParameter (parameter : SqlParameterDefinition) : Except Refusal PlanParameter := do
  let type ← planLogicalType parameter.field
  validated PlanParameterFields.validate { name := parameter.name, type }

/-- `_plan_artifact`. -/
def planArtifact (purpose : ArtifactPurpose) (direction : PlanDirection) (datasetId : String)
    (artifact : SqlArtifactDefinition) : Except Refusal PlanArtifact := do
  let parameters ← artifact.parameters.mapM planParameter
  validated PlanArtifactFields.validate
    { purpose, direction, datasetId, dialect := artifact.dialect
      contentSha256 := artifact.contentSha256, parameters }

/-- One round of a loop of `_plan_artifacts`. -/
def planArtifactIfAny (purpose : ArtifactPurpose) (direction : PlanDirection)
    (datasetId : String) : Option SqlArtifactDefinition → Except Refusal (List PlanArtifact)
  | none => .ok []
  | some artifact => (planArtifact purpose direction datasetId artifact).map fun plan => [plan]

def locatorArtifact : DatasetLocator → Option SqlArtifactDefinition
  | .relation _ => none
  | .sqlArtifact artifact => some artifact

def readinessArtifact : ReadinessDefinition → Option SqlArtifactDefinition
  | .sqlArtifact artifact => some artifact
  | .relationManifest _ => none

/-- `_plan_artifacts`, over the two datasets of the consistency policy. -/
def planArtifacts (check : RowCheckDefinition)
    (referenceItem targetItem : ConsistencyDatasetDefinition) :
    Except Refusal (List PlanArtifact) := do
  let referenceProjection ← planArtifactIfAny .projection .reference check.reference.datasetId
    (locatorArtifact check.reference.locator)
  let targetProjection ← planArtifactIfAny .projection .target check.target.datasetId
    (locatorArtifact check.target.locator)
  let referenceReadiness ← planArtifactIfAny .readiness .reference referenceItem.datasetId
    (readinessArtifact referenceItem.readiness)
  let targetReadiness ← planArtifactIfAny .readiness .target targetItem.datasetId
    (readinessArtifact targetItem.readiness)
  return referenceProjection ++ targetProjection ++ referenceReadiness ++ targetReadiness

/-- `_plan_readiness`. -/
def planReadiness (dataset : DatasetDefinition) :
    ReadinessDefinition → Except Refusal PlanReadiness
  | .sqlArtifact _ => do
    let readiness ← validated PlanSqlReadinessFields.validate
      { connectionId := dataset.connection.connectionId }
    return .sql readiness
  | .relationManifest manifest => do
    refuseIf (manifest.connectionId ≠ dataset.connection.connectionId)
      (planRefusal "relation manifest readiness must inherit its dataset connection")
    let relation ← validated validateReadinessRelation manifest.relation
    let columns ← validated validateManifestColumns manifest.columns
    let readiness ← validated PlanManifestReadinessFields.validate
      { connectionId := manifest.connectionId, relation, columns }
    return .relationManifest readiness

def planLocatorKind : DatasetLocator → LocatorKind
  | .relation _ => .relation
  | .sqlArtifact _ => .sql

def planRelationScope : DatasetLocator → Option RelationScope
  | .relation locator => some locator.relationScope
  | .sqlArtifact _ => none

variable (sha256 : Sha256)

/-- `_plan_dataset`. -/
def planDataset (dataset : DatasetDefinition) (readiness : ReadinessDefinition)
    (direction : PlanDirection) : Except Refusal PlanDataset := do
  let readiness ← planReadiness dataset readiness
  validated PlanDatasetFields.validate
    { direction
      datasetId := dataset.datasetId
      datasetDigest := (semanticDigestHex sha256 (datasetSemanticValue dataset)).1
      connectionId := dataset.connection.connectionId
      adapter := dataset.connection.adapter
      driver := dataset.connection.driver
      profile := dataset.connection.profile
      locatorKind := planLocatorKind dataset.locator
      relationScope := planRelationScope dataset.locator
      readiness }

/-- `_plan_probes`. -/
def planProbes (check : RowCheckDefinition) : Except Refusal (List PlanProbe) :=
  ([(PlanDirection.reference, check.reference), (.target, check.target)].flatMap fun side =>
      probeNames.map fun name =>
        { name, status := PlanProbeStatus.requiredNotRun, direction := side.1
          datasetId := side.2.datasetId : PlanProbeFields }).mapM
    (validated PlanProbeFields.validate)

/-- `_plan_stages`. -/
def planStages (check : RowCheckDefinition) : Except Refusal (List PlanStage) :=
  ((expectedStageNames check.assurancePolicy).map fun name =>
      { name, status := PlanStageStatus.plannedNotRun : PlanStageFields }).mapM
    (validated PlanStageFields.validate)

def planEstimates : Except Refusal (List PlanEstimate) :=
  (expectedEstimates.map fun estimate =>
      { name := estimate.1, status := EstimateStatus.unknown
        unit := estimate.2 : PlanEstimateFields }).mapM
    (validated PlanEstimateFields.validate)

def scopeText : Option RelationScope → String
  | some relationScope => relationScope.value
  | none => "not_applicable"

/-- `_relation_scope_limitation`. -/
def relationScopeLimitation (reference target : PlanDataset) : String :=
  let scopes := ([reference, target].filter fun dataset =>
    decide (dataset.1.locatorKind = .relation)).map fun dataset => dataset.1.relationScope
  if some RelationScope.frozenPhysicalUnion ∉ scopes then
    "relation datasets use physical_only semantics with ONLY; existence and relkind are not " ++
      "statically proven"
  else
    "relation dataset scopes are explicitly selected: reference=" ++
      scopeText reference.1.relationScope ++ ", target=" ++ scopeText target.1.relationScope ++
      "; frozen_physical_union resolves a locked physical hierarchy while physical_only uses " ++
      "ONLY; existence, topology, and relkind are not statically proven"

/-- `_find_check`. -/
def findCheck (config : LoadedContractConfig) (checkId : String) :
    Except Refusal RowCheckDefinition := do
  refuseIf (isBlank checkId = true)
    (contractReference "static plan check_id must be a nonblank string")
  match config.checks.filter fun check => decide (check.checkId = checkId) with
  | [check] => .ok check
  | _ => .error (contractReference s!"static plan references unknown check {reprText checkId}")

/-- The fields of the report that `compile_static_plan` builds. -/
def staticPlanFields (check : RowCheckDefinition) (scopeDigest contractDigest : String)
    (reference target : PlanDataset) (artifacts : List PlanArtifact) (probes : List PlanProbe)
    (stages : List PlanStage) (estimates : List PlanEstimate) : PlanReportFields where
  schemaVersion := 1
  configVersion := 1
  semanticDigestProtocol := semanticDigestProtocol
  canonicalProtocol := protocolName
  checkId := check.checkId
  revision := check.revision
  invariant := "row_equivalence"
  assurancePolicy := check.assurancePolicy
  logicalSchemaDigest := String.ofList check.comparisonSchema.logicalSchemaDigest
  contractDigest := contractDigest
  scopeDigest := scopeDigest
  reference := reference
  target := target
  orderedKey := check.key
  artifacts := artifacts
  probes := probes
  stages := stages
  estimates := estimates
  limitations :=
    ["static plan does not access endpoints or establish readiness, capability, or data equality",
      "all listed probes and execution stages remain required and not run",
      relationScopeLimitation reference target,
      "estimates are unknown until bounded endpoint preflight and execution"]

/-- `compile_static_plan`. -/
def compileStaticPlan (config : LoadedContractConfig) (checkId : String)
    (scopeValues : ScopeMapping) : Except Refusal PlanReport := do
  let check ← findCheck config checkId
  let resolvedScope ← resolveScopeValues sha256 check scopeValues
  match check.consistency.datasets with
  | [referenceItem, targetItem] => do
    refuseIf (referenceItem.datasetId ≠ check.reference.datasetId ∨
        targetItem.datasetId ≠ check.target.datasetId)
      (planRefusal "check consistency readiness is outside the dataset direction closure")
    let reference ← planDataset sha256 check.reference referenceItem.readiness .reference
    let target ← planDataset sha256 check.target targetItem.readiness .target
    let artifacts ← planArtifacts check referenceItem targetItem
    let probes ← planProbes check
    let stages ← planStages check
    let estimates ← planEstimates
    validated PlanReportFields.validate
      (staticPlanFields check resolvedScope.scopeDigest.1
        (semanticDigestHex sha256 (contractSemanticValue config.version check)).1
        reference target artifacts probes stages estimates)
  | _ => raiseValueError "wrong number of values to unpack (expected 2)"

end ForensicData.Planning
