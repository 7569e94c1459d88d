/-
ForensicData.Contracts.Identity — the semantic values of a contract.

What identifies a dataset version or a check revision is the digest of a JSON
value of its meaning. Objects have their keys in order here, as
`canonical_semantic_json` writes them.
-/
import ForensicData.Contracts.Model

namespace ForensicData.Contracts

open ForensicData.Canonical
open ForensicData.Lib

/-! ## Semantic values -/

/-- `SEMANTIC_DIGEST_PROTOCOL`. -/
def semanticDigestProtocol : String := "dfe_semantic_v1"

/-- `canonical_semantic_json`: compact JSON with sorted keys. -/
def canonicalSemanticJson (value : Json) : String := String.ofList value.render

def textOrNull : Option String → Json
  | none => .null
  | some text => .string text

/-! ## Parts -/

def connectionSemantics (connection : ConnectionDefinition) : Json :=
  .object
    [("adapter", .string connection.adapter.value),
     ("connection_id", .string connection.connectionId),
     ("driver", .string connection.driver),
     ("profile", .string connection.profile)]

def schemaSemantics (schema : LogicalSchemaDefinition) : Json :=
  .object
    [("equality", .array (schema.equality.map fun equality => .string equality.value)),
     ("logical_schema_digest", .string (String.ofList schema.logicalSchemaDigest))]

/-- `_field_type_semantics`. -/
def fieldTypeSemantics (field : FieldSchema) : Json :=
  .object
    [("kind", .string field.logicalType.value),
     ("normalization", .string field.normalization.value),
     ("parameters", parametersMetadata field.parameters)]

def sqlParameterSemantics (parameter : SqlParameterDefinition) : Json :=
  .object [("name", .string parameter.name), ("type", fieldTypeSemantics parameter.field)]

/-- `sql_parameters_semantic_value`. -/
def sqlParametersSemanticValue (parameters : List SqlParameterDefinition) : Json :=
  .array (parameters.map sqlParameterSemantics)

/-- `_locator_semantics` of a relation. -/
def relationSemantics (locator : RelationLocator) : Json :=
  .object
    [("catalog", textOrNull locator.catalog),
     ("kind", .string "relation"),
     ("name", .string locator.name),
     ("relation_scope", .string locator.relationScope.value),
     ("schema", .string locator.schema)]

/-- `_locator_semantics` of a SQL artifact. -/
def sqlArtifactSemantics (artifact : SqlArtifactDefinition) : Json :=
  .object
    [("content_sha256", .string artifact.contentSha256),
     ("dialect", .string artifact.dialect.value),
     ("kind", .string "sql"),
     ("parameters", sqlParametersSemanticValue artifact.parameters)]

def locatorSemantics : DatasetLocator → Json
  | .relation locator => relationSemantics locator
  | .sqlArtifact artifact => sqlArtifactSemantics artifact

def manifestColumnsSemantics (columns : ReadinessManifestColumns) : Json :=
  .object
    [("batch_id", .string columns.batchId),
     ("business_date", .string columns.businessDate),
     ("completed_at", .string columns.completedAt),
     ("dataset_id", .string columns.datasetId),
     ("dataset_version", .string columns.datasetVersion),
     ("scope_digest", .string columns.scopeDigest),
     ("source_cut", .string columns.sourceCut),
     ("state", .string columns.state)]

def readinessSemantics : ReadinessDefinition → Json
  | .sqlArtifact artifact => sqlArtifactSemantics artifact
  | .relationManifest manifest =>
    .object
      [("columns", manifestColumnsSemantics manifest.columns),
       ("connection_id", .string manifest.connectionId),
       ("kind", .string "relation_manifest"),
       ("relation", relationSemantics manifest.relation)]

def scopeBindingSemantics (binding : ScopeBinding) : Json :=
  .object
    [("column", .string binding.column),
     ("dataset_id", .string binding.datasetId),
     ("operator", .string binding.operator.value),
     ("parameter", .string binding.parameter)]

def scopeParameterSemantics (parameter : ScopeParameterDefinition) : Json :=
  .object [("name", .string parameter.name), ("type", fieldTypeSemantics parameter.field)]

def scopeSemantics (scope : ScopeDefinition) : Json :=
  .object
    [("bindings", .array (scope.bindings.map scopeBindingSemantics)),
     ("null_partition", .string scope.nullPartition.value),
     ("parameters", .array (scope.parameters.map scopeParameterSemantics))]

def consistencyDatasetSemantics (dataset : ConsistencyDatasetDefinition) : Json :=
  .object
    [("dataset_id", .string dataset.datasetId),
     ("readiness", readinessSemantics dataset.readiness),
     ("stable_read", .string dataset.stableRead.value)]

def consistencySemantics (consistency : ConsistencyDefinition) : Json :=
  .object
    [("alignment_fields", .array (consistency.alignmentFields.map Json.string)),
     ("datasets", .array (consistency.datasets.map consistencyDatasetSemantics)),
     ("late_arrivals", .string consistency.lateArrivals.value),
     ("minimum_evidence", .string consistency.minimumEvidence.value)]

def projectedFieldSemantics (projected : ProjectedField) : Json :=
  .object [("column", .string projected.columnName), ("field", .string projected.fieldName)]

/-! ## Datasets and contracts -/

/-- `_dataset_body_semantics`. -/
def datasetBodySemantics (dataset : DatasetDefinition) : Json :=
  .object
    [("connection", connectionSemantics dataset.connection),
     ("dataset_id", .string dataset.datasetId),
     ("grain", .array (dataset.grain.map Json.string)),
     ("locator", locatorSemantics dataset.locator),
     ("logical_schema", schemaSemantics dataset.logicalSchema),
     ("projection", .array (dataset.projection.map projectedFieldSemantics))]

/-- `dataset_semantic_value`. -/
def datasetSemanticValue (dataset : DatasetDefinition) : Json :=
  .object
    [("canonical_protocol", .string protocolName),
     ("dataset", datasetBodySemantics dataset),
     ("semantic_protocol", .string semanticDigestProtocol)]

/-- `contract_semantic_value`. -/
def contractSemanticValue (configVersion : Int) (check : RowCheckDefinition) : Json :=
  .object
    [("assurance_policy", .string check.assurancePolicy.value),
     ("canonical_protocol", .string protocolName),
     ("config_version", .int configVersion),
     ("consistency", consistencySemantics check.consistency),
     ("direction", .object
       [("reference", datasetBodySemantics check.reference),
        ("target", datasetBodySemantics check.target)]),
     ("invariant", .string "row_equivalence"),
     ("key", .array (check.key.map Json.string)),
     ("logical_schema", schemaSemantics check.comparisonSchema),
     ("scope", scopeSemantics check.scope),
     ("semantic_protocol", .string semanticDigestProtocol)]

end ForensicData.Contracts
