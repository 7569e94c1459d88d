/-
ForensicData.Contracts.Source — a contract as it is read from its document.

The loader has checked the shape and captured the SQL artifacts; nothing is
resolved yet. Mappings of the document are lists of pairs. The path of a SQL
artifact is left out: no later step reads it.
-/
import Mathlib.Data.Nat.Notation

namespace ForensicData.Contracts

structure LogicalTypeSource where
  kind : String
  precision : Option Int
  scale : Option Int

structure SchemaFieldSource where
  name : String
  logicalType : LogicalTypeSource
  nullable : Bool
  normalization : String
  equality : String

structure SchemaSource where
  schemaId : String
  fields : List SchemaFieldSource

structure ConnectionSource where
  connectionId : String
  adapter : String
  driver : String
  profile : String
  roles : List String
  secretRef : String

structure RelationSource where
  catalog : Option String
  schema : Option String
  name : String
  relationScope : String

structure SqlParameterSource where
  name : String
  logicalType : LogicalTypeSource

structure SqlArtifactSource where
  dialect : String
  parameters : List SqlParameterSource
  content : String
  contentSha256 : String

inductive DatasetLocatorSource where
  | relation (source : RelationSource)
  | sqlArtifact (source : SqlArtifactSource)

structure ReadinessManifestColumnsSource where
  datasetId : String
  scopeDigest : String
  batchId : String
  state : String
  businessDate : String
  sourceCut : String
  datasetVersion : String
  completedAt : String

structure RelationManifestReadinessSource where
  relation : RelationSource
  columns : ReadinessManifestColumnsSource

inductive ReadinessSource where
  | sqlArtifact (source : SqlArtifactSource)
  | relationManifest (source : RelationManifestReadinessSource)

structure ProjectionSource where
  field : String
  column : String

structure DatasetSource where
  datasetId : String
  connectionRef : String
  locator : DatasetLocatorSource
  logicalSchemaRef : String
  projection : List ProjectionSource
  grain : List String

structure ScopeParameterSource where
  name : String
  logicalType : LogicalTypeSource

structure ScopeBindingSource where
  datasetRef : String
  column : String
  operator : String
  parameterRef : String

structure ScopeSource where
  parameters : List ScopeParameterSource
  bindings : List ScopeBindingSource
  nullPartition : String

structure ConsistencyDatasetSource where
  datasetRef : String
  readiness : ReadinessSource
  stableRead : String

structure ConsistencySource where
  consistencyId : String
  minimumEvidence : String
  alignmentFields : List String
  lateArrivals : String
  datasets : List ConsistencyDatasetSource

structure CheckSource where
  checkId : String
  revision : Int
  invariant : String
  referenceRef : String
  targetRef : String
  comparisonSchemaRef : String
  key : List String
  inlineScope : Option ScopeSource
  scopeRef : Option String
  consistencyRef : String
  assurancePolicy : String

structure ExecutionSource where
  version : Int
  maxQueries : Int
  maxFetchedRecords : Int
  maxApplicationResultBytes : Int
  maxEvidenceRows : Int
  maxEvidenceBytes : Int
  maxFingerprintNodes : Int
  maxCoordinatorMemoryBytes : Int
  maxDepth : Int
  maxFullScansPerSide : Int
  statementTimeoutMilliseconds : Int
  runTimeoutMilliseconds : Int
  maxAttempts : Int
  maxChecksConcurrency : Int
  maxSourceConcurrency : Int

structure EvidenceSource where
  sqlCapture : String
  ddlCapture : String
  fields : List (String × String)
  unspecifiedFields : String

structure LoadedContractSource where
  version : Int
  connections : List ConnectionSource
  schemas : List SchemaSource
  datasets : List DatasetSource
  checks : List CheckSource
  namedScopes : List (String × ScopeSource)
  consistency : List ConsistencySource
  execution : ExecutionSource
  metadataConnectionRef : String
  evidence : EvidenceSource

end ForensicData.Contracts
