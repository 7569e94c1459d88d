/-
ForensicData.Contracts.Model — compiled contracts.

Enumerations are read from their document text by `ofValue`. The digests of
datasets and checks are left out. A definition repeats, when it is built, the
checks the compiler has just made; only the two checks the compiler does not
make are steps of a `make` here: distinct manifest columns and the digest of a
captured SQL text.
-/
import ForensicData.Canonical.Schema
import ForensicData.SourceBudget
import ForensicData.Text

namespace ForensicData.Contracts

open ForensicData.Canonical

/-! ## Refusals -/

def contractValidation (message : String) : Refusal :=
  { error := .contractValidationError, message }

def contractReference (message : String) : Refusal :=
  { error := .contractReferenceError, message }

def unsupportedContract (message : String) : Refusal :=
  { error := .unsupportedContractError, message }

/-! ## Enumerations -/

inductive Adapter where
  | postgresql
  | mssql
  | greengage
  | greenplum
  | clickhouse
  deriving DecidableEq, Repr

def Adapter.value : Adapter → String
  | .postgresql => "postgresql"
  | .mssql => "mssql"
  | .greengage => "greengage"
  | .greenplum => "greenplum"
  | .clickhouse => "clickhouse"

def Adapter.ofValue : String → Option Adapter
  | "postgresql" => some .postgresql
  | "mssql" => some .mssql
  | "greengage" => some .greengage
  | "greenplum" => some .greenplum
  | "clickhouse" => some .clickhouse
  | _ => none

inductive ConnectionRole where
  | source
  | target
  | metadata
  deriving DecidableEq, Repr

def ConnectionRole.value : ConnectionRole → String
  | .source => "source"
  | .target => "target"
  | .metadata => "metadata"

def ConnectionRole.ofValue : String → Option ConnectionRole
  | "source" => some .source
  | "target" => some .target
  | "metadata" => some .metadata
  | _ => none

/-- `SqlDialect`, which has one member. -/
inductive SqlDialect where
  | postgresql
  deriving DecidableEq, Repr

def SqlDialect.value : SqlDialect → String
  | .postgresql => "postgresql"

/-- `FieldEquality`, which has one member. -/
inductive FieldEquality where
  | exact
  deriving DecidableEq, Repr

def FieldEquality.value : FieldEquality → String
  | .exact => "exact"

inductive RelationScope where
  | physicalOnly
  | frozenPhysicalUnion
  deriving DecidableEq, Repr

def RelationScope.value : RelationScope → String
  | .physicalOnly => "physical_only"
  | .frozenPhysicalUnion => "frozen_physical_union"

def RelationScope.ofValue : String → Option RelationScope
  | "physical_only" => some .physicalOnly
  | "frozen_physical_union" => some .frozenPhysicalUnion
  | _ => none

/-- `ScopeOperator`, which has one member. -/
inductive ScopeOperator where
  | equal
  deriving DecidableEq, Repr

def ScopeOperator.value : ScopeOperator → String
  | .equal => "eq"

def ScopeOperator.ofValue : String → Option ScopeOperator
  | "eq" => some .equal
  | _ => none

/-- `NullPartitionPolicy`, which has one member. -/
inductive NullPartitionPolicy where
  | reject
  deriving DecidableEq, Repr

def NullPartitionPolicy.value : NullPartitionPolicy → String
  | .reject => "reject"

def NullPartitionPolicy.ofValue : String → Option NullPartitionPolicy
  | "reject" => some .reject
  | _ => none

inductive MinimumEvidence where
  | verified
  | asserted
  deriving DecidableEq, Repr

def MinimumEvidence.value : MinimumEvidence → String
  | .verified => "verified"
  | .asserted => "asserted"

def MinimumEvidence.ofValue : String → Option MinimumEvidence
  | "verified" => some .verified
  | "asserted" => some .asserted
  | _ => none

inductive StableReadKind where
  | transactionSnapshot
  | immutableNamedVersion
  deriving DecidableEq, Repr

def StableReadKind.value : StableReadKind → String
  | .transactionSnapshot => "transaction_snapshot"
  | .immutableNamedVersion => "immutable_named_version"

def StableReadKind.ofValue : String → Option StableReadKind
  | "transaction_snapshot" => some .transactionSnapshot
  | "immutable_named_version" => some .immutableNamedVersion
  | _ => none

/-- `LateArrivalPolicy`, which has one member. -/
inductive LateArrivalPolicy where
  | nextBatch
  deriving DecidableEq, Repr

def LateArrivalPolicy.value : LateArrivalPolicy → String
  | .nextBatch => "next_batch"

def LateArrivalPolicy.ofValue : String → Option LateArrivalPolicy
  | "next_batch" => some .nextBatch
  | _ => none

inductive AssurancePolicy where
  | fingerprintAllowed
  | exactRequired
  deriving DecidableEq, Repr

def AssurancePolicy.value : AssurancePolicy → String
  | .fingerprintAllowed => "fingerprint_allowed"
  | .exactRequired => "exact_required"

def AssurancePolicy.ofValue : String → Option AssurancePolicy
  | "fingerprint_allowed" => some .fingerprintAllowed
  | "exact_required" => some .exactRequired
  | _ => none

inductive CapturePolicy where
  | enabled
  | disabled
  deriving DecidableEq, Repr

def CapturePolicy.value : CapturePolicy → String
  | .enabled => "enabled"
  | .disabled => "disabled"

def CapturePolicy.ofValue : String → Option CapturePolicy
  | "enabled" => some .enabled
  | "disabled" => some .disabled
  | _ => none

inductive EvidenceAction where
  | store
  | redact
  | omit
  deriving DecidableEq, Repr

def EvidenceAction.value : EvidenceAction → String
  | .store => "store"
  | .redact => "redact"
  | .omit => "omit"

def EvidenceAction.ofValue : String → Option EvidenceAction
  | "store" => some .store
  | "redact" => some .redact
  | "omit" => some .omit
  | _ => none

@[simp] theorem EvidenceAction.ofValue_value (action : EvidenceAction) :
    EvidenceAction.ofValue action.value = some action := by
  cases action <;> rfl

/-! ## Definitions -/

structure ConnectionDefinition where
  connectionId : String
  adapter : Adapter
  driver : String
  profile : String
  roles : List ConnectionRole
  secretRef : String

structure LogicalSchemaDefinition where
  schemaId : String
  schema : CanonicalSchema
  equality : List FieldEquality
  logicalSchemaDigest : List Char

structure RelationLocator where
  catalog : Option String
  schema : String
  name : String
  relationScope : RelationScope

structure SqlParameterDefinition where
  name : String
  field : FieldSchema

structure SqlArtifactDefinition where
  dialect : SqlDialect
  parameters : List SqlParameterDefinition
  content : String
  contentSha256 : String

/-- `SqlArtifactDefinition(...)`: the digest is that of the content. -/
def SqlArtifactDefinition.make (sha256 : Sha256) (dialect : SqlDialect)
    (parameters : List SqlParameterDefinition) (content contentSha256 : String) :
    Except Refusal SqlArtifactDefinition := do
  refuseIf (Lib.hexText (sha256.digest (utf8Encode content)) ≠ contentSha256.toList)
    (contractValidation "SQL artifact content digest does not match the captured UTF-8 bytes")
  .ok { dialect, parameters, content, contentSha256 }

inductive DatasetLocator where
  | relation (locator : RelationLocator)
  | sqlArtifact (artifact : SqlArtifactDefinition)

structure ReadinessManifestColumns where
  datasetId : String
  scopeDigest : String
  batchId : String
  state : String
  businessDate : String
  sourceCut : String
  datasetVersion : String
  completedAt : String

/-- `ReadinessManifestColumns.values`. -/
def ReadinessManifestColumns.values (columns : ReadinessManifestColumns) : List String :=
  [columns.datasetId, columns.scopeDigest, columns.batchId, columns.state, columns.businessDate,
    columns.sourceCut, columns.datasetVersion, columns.completedAt]

/-- The check of `ReadinessManifestColumns` the compiler does not make. -/
def ReadinessManifestColumns.make (columns : ReadinessManifestColumns) :
    Except Refusal ReadinessManifestColumns := do
  refuseIf (¬ columns.values.Nodup) (contractValidation
    "readiness manifest column mappings must reference distinct columns")
  .ok columns

structure RelationManifestReadiness where
  connectionId : String
  relation : RelationLocator
  columns : ReadinessManifestColumns

inductive ReadinessDefinition where
  | sqlArtifact (artifact : SqlArtifactDefinition)
  | relationManifest (manifest : RelationManifestReadiness)

structure ProjectedField where
  fieldName : String
  columnName : String

structure DatasetDefinition where
  datasetId : String
  connection : ConnectionDefinition
  locator : DatasetLocator
  logicalSchema : LogicalSchemaDefinition
  projection : List ProjectedField
  grain : List String

structure ScopeParameterDefinition where
  name : String
  field : FieldSchema

structure ScopeBinding where
  datasetId : String
  column : String
  operator : ScopeOperator
  parameter : String

structure ScopeDefinition where
  parameters : List ScopeParameterDefinition
  bindings : List ScopeBinding
  nullPartition : NullPartitionPolicy

structure ConsistencyDatasetDefinition where
  datasetId : String
  readiness : ReadinessDefinition
  stableRead : StableReadKind

structure ConsistencyDefinition where
  minimumEvidence : MinimumEvidence
  alignmentFields : List String
  lateArrivals : LateArrivalPolicy
  datasets : List ConsistencyDatasetDefinition

structure EvidenceFieldPolicy where
  fieldName : String
  action : EvidenceAction

structure EvidenceDefinition where
  sqlCapture : CapturePolicy
  ddlCapture : CapturePolicy
  fields : List EvidenceFieldPolicy
  unspecifiedFields : EvidenceAction

structure RowCheckDefinition where
  checkId : String
  revision : Int
  reference : DatasetDefinition
  target : DatasetDefinition
  comparisonSchema : LogicalSchemaDefinition
  key : List String
  scope : ScopeDefinition
  consistency : ConsistencyDefinition
  assurancePolicy : AssurancePolicy

/-- `LoadedContractConfig`; the metadata policy is its connection. -/
structure LoadedContractConfig where
  version : Int
  connections : List ConnectionDefinition
  schemas : List LogicalSchemaDefinition
  datasets : List DatasetDefinition
  checks : List RowCheckDefinition
  namedScopes : List (String × ScopeDefinition)
  consistency : List (String × ConsistencyDefinition)
  execution : ExecutionBudgets
  metadata : ConnectionDefinition
  evidence : EvidenceDefinition

/-- The names of the fields the check compares. -/
def RowCheckDefinition.fieldNames (check : RowCheckDefinition) : List String :=
  check.comparisonSchema.schema.fields.map FieldSchema.name

end ForensicData.Contracts
