/-
ForensicData.Contracts.Compiler — resolving a contract.

Scopes, consistency policies, checks, budgets and the evidence policy, and
`compile_contract`, which resolves all entities in the order of the source.
The fields of the evidence policy are looked up in all logical schemas of the
contract.
-/
import ForensicData.Contracts.Entities

namespace ForensicData.Contracts

open ForensicData.Canonical

variable (sha256 : Sha256)

/-! ## Scopes -/

/-- The loop of `_compile_scope` over the parameters. -/
def compileScopeParameters (context : String) (parameters : List ScopeParameterDefinition) :
    List ScopeParameterSource → Except Refusal (List ScopeParameterDefinition)
  | [] => .ok parameters
  | parameter :: rest => do
    let name ← logicalName parameter.name s!"{context} parameter name"
    refuseIf (name ∈ parameters.map ScopeParameterDefinition.name)
      (contractValidation s!"{context} contains duplicate parameter {reprText name}")
    let field ← fieldSchema name parameter.logicalType false
      s!"{context} parameter {reprText name}"
    compileScopeParameters context (parameters ++ [{ name, field }]) rest

def projectedFieldForColumn (dataset : DatasetDefinition) (column context : String) :
    Except Refusal (Option FieldSchema) :=
  match dataset.projection.filter (·.columnName = column) with
  | [] => .ok none
  | [projected] =>
    match fieldNamed dataset.logicalSchema.schema.fields projected.fieldName with
    | some field => .ok (some field)
    | none => .error { error := .keyError, message := reprText projected.fieldName }
  | matching => .error (contractReference
      (s!"{context} binding column {reprText column} maps to more than one projected field " ++
        s!"in dataset {reprText dataset.datasetId}; matches={matching.length}"))

def compileScopeBinding (datasets : List (String × DatasetDefinition))
    (parameters : List ScopeParameterDefinition) (context : String) (datasetRefs : List String)
    (source : ScopeBindingSource) : Except Refusal ScopeBinding := do
  let dataset ← requiredReference datasets source.datasetRef s!"{context} binding dataset"
  refuseIf (dataset.datasetId ∈ datasetRefs) (contractValidation
    s!"{context} contains more than one binding for dataset {reprText dataset.datasetId}")
  match parameters.find? (·.name = source.parameterRef) with
  | none => .error (contractReference
      (s!"{context} binding for dataset {reprText dataset.datasetId} references unknown " ++
        s!"parameter {reprText source.parameterRef}"))
  | some parameter =>
    match ScopeOperator.ofValue source.operator with
    | none => .error (unsupportedContract
        s!"{context} binding operator is unsupported: operator={reprText source.operator}")
    | some operator => do
      let column ← physicalName source.column
        s!"{context} binding column for dataset {reprText dataset.datasetId}"
      let projectedField ← projectedFieldForColumn dataset column context
      refuseIf (projectedField.any (fun field => !sameLogicalType field parameter.field) = true)
        (contractValidation
          (s!"{context} binding column {reprText column} for dataset " ++
            s!"{reprText dataset.datasetId} does not match parameter " ++
            s!"{reprText parameter.name} logical type"))
      .ok { datasetId := dataset.datasetId, column, operator, parameter := parameter.name }

/-- The loop of `_compile_scope` over the bindings. -/
def compileScopeBindings (datasets : List (String × DatasetDefinition))
    (parameters : List ScopeParameterDefinition) (context : String) (bindings : List ScopeBinding) :
    List ScopeBindingSource → Except Refusal (List ScopeBinding)
  | [] => .ok bindings
  | source :: rest => do
    let binding ← compileScopeBinding datasets parameters context
      (bindings.map ScopeBinding.datasetId) source
    compileScopeBindings datasets parameters context (bindings ++ [binding]) rest

def compileScope (source : ScopeSource) (datasets : List (String × DatasetDefinition))
    (context : String) : Except Refusal ScopeDefinition :=
  match NullPartitionPolicy.ofValue source.nullPartition with
  | none => .error (unsupportedContract
      s!"{context} null partition policy is unsupported: policy={reprText source.nullPartition}")
  | some nullPartition => do
    refuseIf (1 < source.parameters.length) (unsupportedContract
      (s!"{context} has {source.parameters.length} parameters; " ++
        "the initial profile supports one"))
    let parameters ← compileScopeParameters context [] source.parameters
    refuseIf (parameters = [] ∧ source.bindings ≠ [])
      (contractValidation s!"{context} cannot have bindings without parameters")
    refuseIf (parameters ≠ [] ∧ source.bindings = [])
      (contractValidation s!"{context} parameters require per-side bindings")
    let bindings ← compileScopeBindings datasets parameters context [] source.bindings
    .ok { parameters, bindings, nullPartition }

/-! ## Consistency policies -/

def validateStableRead (dataset : DatasetDefinition) (stableRead : StableReadKind)
    (minimumEvidence : MinimumEvidence) (context : String) : Except Refusal Unit :=
  if dataset.connection.adapter = .clickhouse then do
    refuseIf (stableRead ≠ .immutableNamedVersion) (unsupportedContract
      (s!"{context} ClickHouse dataset {reprText dataset.datasetId} requires " ++
        "stable_read 'immutable_named_version'"))
    refuseIf (minimumEvidence ≠ .asserted) (unsupportedContract
      (s!"{context} ClickHouse immutable named version requires explicit " ++
        "minimum_evidence 'asserted'"))
  else
    refuseIf (stableRead = .immutableNamedVersion) (unsupportedContract
      (s!"{context} stable-read strategy 'immutable_named_version' is unsupported for " ++
        s!"dataset {reprText dataset.datasetId} adapter " ++
        reprText dataset.connection.adapter.value))

def compileRelationManifestReadiness (source : RelationManifestReadinessSource)
    (dataset : DatasetDefinition) (context : String) :
    Except Refusal RelationManifestReadiness := do
  refuseIf (source.relation.catalog.isSome = true) (unsupportedContract
    (s!"{context} {dataset.connection.adapter.value} relation catalog is unsupported; " ++
      "use null"))
  match source.relation.schema with
  | none => .error (unsupportedContract
      s!"{context} {dataset.connection.adapter.value} relation requires an explicit schema")
  | some schemaName => do
    refuseIf (source.relation.relationScope ≠ RelationScope.physicalOnly.value)
      (unsupportedContract (s!"{context} relation requires physical_only scope: " ++
        s!"relation_scope={reprText source.relation.relationScope}"))
    let schema ← physicalName schemaName s!"{context} relation schema"
    let name ← physicalName source.relation.name s!"{context} relation name"
    let columns := source.columns
    let datasetId ← physicalName columns.datasetId s!"{context} dataset_id column"
    let scopeDigest ← physicalName columns.scopeDigest s!"{context} scope_digest column"
    let batchId ← physicalName columns.batchId s!"{context} batch_id column"
    let state ← physicalName columns.state s!"{context} state column"
    let businessDate ← physicalName columns.businessDate s!"{context} business_date column"
    let sourceCut ← physicalName columns.sourceCut s!"{context} source_cut column"
    let datasetVersion ← physicalName columns.datasetVersion s!"{context} dataset_version column"
    let completedAt ← physicalName columns.completedAt s!"{context} completed_at column"
    let columns ← ReadinessManifestColumns.make
      { datasetId, scopeDigest, batchId, state, businessDate, sourceCut, datasetVersion
        completedAt }
    .ok
      { connectionId := dataset.connection.connectionId
        relation := { catalog := none, schema, name, relationScope := .physicalOnly }
        columns }

def compileReadiness (dataset : DatasetDefinition) (context : String) :
    ReadinessSource → Except Refusal ReadinessDefinition
  | .sqlArtifact source => do
    refuseIf (dataset.connection.adapter = .clickhouse)
      (unsupportedContract s!"{context} ClickHouse endpoint requires a relation manifest")
    let artifact ← compileSqlArtifact sha256 source dataset.connection.adapter
      s!"{context} artifact"
    .ok (.sqlArtifact artifact)
  | .relationManifest source => do
    let manifest ← compileRelationManifestReadiness source dataset context
    .ok (.relationManifest manifest)

/-- The loop of `_compile_consistency` over the datasets. -/
def compileConsistencyDatasets (datasets : List (String × DatasetDefinition))
    (minimumEvidence : MinimumEvidence) (context : String)
    (compiled : List ConsistencyDatasetDefinition) :
    List ConsistencyDatasetSource → Except Refusal (List ConsistencyDatasetDefinition)
  | [] => .ok compiled
  | item :: rest => do
    let dataset ← requiredReference datasets item.datasetRef s!"{context} dataset"
    refuseIf (dataset.datasetId ∈ compiled.map ConsistencyDatasetDefinition.datasetId)
      (contractValidation s!"{context} contains duplicate dataset {reprText dataset.datasetId}")
    match StableReadKind.ofValue item.stableRead with
    | none => .error (unsupportedContract
        (s!"{context} stable-read strategy is unsupported for dataset " ++
          s!"{reprText dataset.datasetId}: kind={reprText item.stableRead}"))
    | some stableRead => do
      validateStableRead dataset stableRead minimumEvidence context
      let readiness ← compileReadiness sha256 dataset
        s!"{context} readiness for dataset {reprText dataset.datasetId}" item.readiness
      compileConsistencyDatasets datasets minimumEvidence context
        (compiled ++ [{ datasetId := dataset.datasetId, readiness, stableRead }]) rest

def compileConsistency (datasets : List (String × DatasetDefinition))
    (source : ConsistencySource) : Except Refusal ConsistencyDefinition := do
  let consistencyId ← logicalName source.consistencyId "consistency policy id"
  let context := s!"consistency policy {reprText consistencyId}"
  match MinimumEvidence.ofValue source.minimumEvidence with
  | none => .error (unsupportedContract
      s!"{context} minimum evidence is unsupported: value={reprText source.minimumEvidence}")
  | some minimumEvidence =>
    match LateArrivalPolicy.ofValue source.lateArrivals with
    | none => .error (unsupportedContract
        s!"{context} late-arrival policy is unsupported: value={reprText source.lateArrivals}")
    | some lateArrivals => do
      let alignmentFields ← orderedUniqueText source.alignmentFields
        s!"{context} alignment fields"
      let compiledDatasets ← compileConsistencyDatasets sha256 datasets minimumEvidence context []
        source.datasets
      refuseIf (compiledDatasets.isEmpty = true)
        (contractValidation s!"{context} must define dataset readiness")
      .ok { minimumEvidence, alignmentFields, lateArrivals, datasets := compiledDatasets }

/-! ## Checks -/

def validateCheckScope (scope : ScopeDefinition) (reference target : DatasetDefinition)
    (context : String) : Except Refusal Unit :=
  if scope.parameters.isEmpty then
    refuseIf (scope.bindings.isEmpty = false)
      (contractValidation s!"{context} full scope cannot contain bindings")
  else
    let expected := [reference.datasetId, target.datasetId]
    let actual := scope.bindings.map ScopeBinding.datasetId
    refuseIf (¬ ((∀ id ∈ actual, id ∈ expected) ∧ (∀ id ∈ expected, id ∈ actual)) ∨
        scope.bindings.length ≠ 2)
      (unsupportedContract
        (s!"{context} scoped comparison requires exactly one binding for each side: " ++
          s!"expected={reprList (expected.insertionSort (· ≤ ·))}, " ++
          s!"actual={reprList (actual.dedup.insertionSort (· ≤ ·))}"))

/-- `by_dataset[dataset_id]`. -/
def bindingOf (bindings : List ScopeBinding) (datasetId : String) : Except Refusal ScopeBinding :=
  match bindings.reverse.find? (·.datasetId = datasetId) with
  | some binding => .ok binding
  | none => .error { error := .keyError, message := reprText datasetId }

def orderCheckScope (scope : ScopeDefinition) (reference target : DatasetDefinition) :
    Except Refusal ScopeDefinition :=
  if scope.bindings.isEmpty then .ok scope
  else do
    let referenceBinding ← bindingOf scope.bindings reference.datasetId
    let targetBinding ← bindingOf scope.bindings target.datasetId
    .ok
      { parameters := scope.parameters, bindings := [referenceBinding, targetBinding]
        nullPartition := scope.nullPartition }

/-- The parameters of a SQL artifact are among those of the scope, in order. -/
def requireParameterSubset (scope : ScopeDefinition) (parameters : List SqlParameterDefinition)
    (message : String) : Except Refusal Unit :=
  refuseIf (parameterDefinitionsAreOrderedSubset
      (scope.parameters.map ScopeParameterDefinition.field)
      (parameters.map SqlParameterDefinition.field) = false)
    (contractValidation message)

/-- One round of `_validate_projection_parameters`. -/
def validateProjectionParameters (direction : String) (dataset : DatasetDefinition)
    (scope : ScopeDefinition) (context : String) : Except Refusal Unit :=
  match dataset.locator with
  | .relation _ => .ok ()
  | .sqlArtifact artifact => requireParameterSubset scope artifact.parameters
      (s!"{context} projection parameters for {direction} dataset " ++
        s!"{reprText dataset.datasetId} must be an ordered typed subset of the scope parameters")

/-- One round of `_select_consistency`. -/
def selectConsistencyDataset (consistency : ConsistencyDefinition) (direction : String)
    (dataset : DatasetDefinition) (scope : ScopeDefinition) (context : String) :
    Except Refusal ConsistencyDatasetDefinition :=
  match consistency.datasets.find? (·.datasetId = dataset.datasetId) with
  | none => .error (contractReference
      (s!"{context} consistency policy does not define {direction} dataset " ++
        reprText dataset.datasetId))
  | some item =>
    match item.readiness with
    | .sqlArtifact artifact => do
      requireParameterSubset scope artifact.parameters
        (s!"{context} readiness parameters for {direction} dataset " ++
          s!"{reprText dataset.datasetId} must be an ordered typed subset of the scope parameters")
      .ok item
    | .relationManifest manifest => do
      refuseIf (manifest.connectionId ≠ dataset.connection.connectionId) (contractValidation
        (s!"{context} readiness relation for {direction} dataset " ++
          s!"{reprText dataset.datasetId} must use the dataset connection"))
      .ok item

def selectConsistency (consistency : ConsistencyDefinition) (reference target : DatasetDefinition)
    (scope : ScopeDefinition) (context : String) : Except Refusal ConsistencyDefinition := do
  let referenceItem ← selectConsistencyDataset consistency "reference" reference scope context
  let targetItem ← selectConsistencyDataset consistency "target" target scope context
  .ok { consistency with datasets := [referenceItem, targetItem] }

/-- The adapters `_compile_check` admits on the two sides. -/
def requireEndpointPair (context : String) (reference target : ConnectionDefinition) :
    Except Refusal Unit := do
  refuseIf (target.adapter = .greenplum) (unsupportedContract
    (s!"{context} target connection {reprText target.connectionId} profile " ++
      s!"{reprText target.profile} is source-only"))
  refuseIf (target.adapter = .clickhouse ∧
      reference.adapter ∉ [Adapter.postgresql, .mssql, .greenplum])
    (unsupportedContract
      (s!"{context} ClickHouse target supports only PostgreSQL, MSSQL, or " ++
        "original Greenplum references"))
  refuseIf (reference.adapter = .clickhouse ∧ target.adapter ≠ .postgresql)
    (unsupportedContract s!"{context} ClickHouse reference supports only a PostgreSQL target")
  refuseIf (.source ∉ reference.roles) (contractValidation
    (s!"{context} reference connection {reprText reference.connectionId} " ++
      "must declare role 'source'"))
  refuseIf (.target ∉ target.roles) (contractValidation
    s!"{context} target connection {reprText target.connectionId} must declare role 'target'")

/-- One round of the schema comparison in `_compile_check`. -/
def requireComparisonSchema (context direction : String) (dataset : DatasetDefinition)
    (comparisonSchema : LogicalSchemaDefinition) : Except Refusal Unit := do
  refuseIf (dataset.logicalSchema.logicalSchemaDigest ≠ comparisonSchema.logicalSchemaDigest)
    (contractValidation
      (s!"{context} {direction} dataset {reprText dataset.datasetId} logical schema does not " ++
        s!"match comparison schema {reprText comparisonSchema.schemaId}"))
  refuseIf (dataset.logicalSchema.equality ≠ comparisonSchema.equality)
    (contractValidation
      (s!"{context} {direction} dataset {reprText dataset.datasetId} equality policy does not " ++
        s!"match comparison schema {reprText comparisonSchema.schemaId}"))

/-- The scope of a check: written in place or by reference. -/
def resolveCheckScope (source : CheckSource) (datasets : List (String × DatasetDefinition))
    (namedScopes : List (String × ScopeDefinition)) (context : String) :
    Except Refusal ScopeDefinition :=
  match source.inlineScope, source.scopeRef with
  | some inlineScope, _ => compileScope inlineScope datasets s!"{context} inline scope"
  | none, some scopeRef => requiredReference namedScopes scopeRef s!"{context} scope"
  | none, none =>
    .error { error := .assertionError, message := "validated check scope is missing" }

def compileCheck (datasets : List (String × DatasetDefinition))
    (schemas : List (String × LogicalSchemaDefinition))
    (namedScopes : List (String × ScopeDefinition))
    (consistency : List (String × ConsistencyDefinition)) (source : CheckSource) :
    Except Refusal RowCheckDefinition := do
  let checkId ← logicalName source.checkId "check id"
  let context := s!"check {reprText checkId}"
  refuseIf (source.inlineScope.isNone = source.scopeRef.isNone) (contractValidation
    s!"{context} requires exactly one of inline_scope or scope_ref")
  refuseIf (source.revision < 1) (contractValidation s!"{context} revision must be positive")
  refuseIf (source.invariant ≠ "row_equivalence") (unsupportedContract
    s!"{context} invariant is unsupported: invariant={reprText source.invariant}")
  let reference ← requiredReference datasets source.referenceRef s!"{context} reference"
  let target ← requiredReference datasets source.targetRef s!"{context} target"
  refuseIf (reference.datasetId = target.datasetId)
    (contractValidation s!"{context} reference and target datasets must differ")
  requireEndpointPair context reference.connection target.connection
  let comparisonSchema ← requiredReference schemas source.comparisonSchemaRef
    s!"{context} comparison schema"
  requireComparisonSchema context "reference" reference comparisonSchema
  requireComparisonSchema context "target" target comparisonSchema
  let key ← orderedKnownFields source.key comparisonSchema s!"{context} key"
  refuseIf (reference.grain ≠ key ∨ target.grain ≠ key) (contractValidation
    (s!"{context} ordered key must equal both dataset grains: key={reprTuple key}, " ++
      s!"reference_grain={reprTuple reference.grain}, target_grain={reprTuple target.grain}"))
  let declaredScope ← resolveCheckScope source datasets namedScopes context
  validateCheckScope declaredScope reference target context
  let scope ← orderCheckScope declaredScope reference target
  validateProjectionParameters "reference" reference scope context
  validateProjectionParameters "target" target scope context
  let selectedConsistency ← requiredReference consistency source.consistencyRef
    s!"{context} consistency policy"
  let resolvedConsistency ← selectConsistency selectedConsistency reference target scope context
  match AssurancePolicy.ofValue source.assurancePolicy with
  | none => .error (unsupportedContract
      s!"{context} assurance policy is unsupported: value={reprText source.assurancePolicy}")
  | some assurancePolicy =>
    .ok
      { checkId, revision := source.revision, reference, target, comparisonSchema, key, scope
        consistency := resolvedConsistency, assurancePolicy }

/-! ## Budgets and evidence -/

def positiveBudget (name : String) (amount : Int) : Except Refusal { n : ℕ // 0 < n } :=
  if h : 1 ≤ amount then .ok ⟨amount.toNat, by omega⟩
  else .error (contractValidation s!"execution {name} must be a positive exact integer")

def nonnegativeBudget (name : String) (amount : Int) : Except Refusal ℕ :=
  if 0 ≤ amount then .ok amount.toNat
  else .error (contractValidation s!"execution {name} must be a nonnegative exact integer")

def compileExecution (value : ExecutionSource) : Except Refusal ExecutionBudgets := do
  refuseIf (value.version ≠ 1) (contractValidation "execution version must be exactly 1")
  let maxQueries ← positiveBudget "max_queries" value.maxQueries
  let maxFetchedRecords ← positiveBudget "max_fetched_records" value.maxFetchedRecords
  let maxApplicationResultBytes ←
    positiveBudget "max_application_result_bytes" value.maxApplicationResultBytes
  let maxFingerprintNodes ← positiveBudget "max_fingerprint_nodes" value.maxFingerprintNodes
  let maxCoordinatorMemoryBytes ←
    positiveBudget "max_coordinator_memory_bytes" value.maxCoordinatorMemoryBytes
  let statementTimeoutMilliseconds ←
    positiveBudget "statement_timeout_milliseconds" value.statementTimeoutMilliseconds
  let runTimeoutMilliseconds ←
    positiveBudget "run_timeout_milliseconds" value.runTimeoutMilliseconds
  let maxAttempts ← positiveBudget "max_attempts" value.maxAttempts
  let _ ← positiveBudget "max_checks_concurrency" value.maxChecksConcurrency
  let _ ← positiveBudget "max_source_concurrency" value.maxSourceConcurrency
  let maxEvidenceRows ← nonnegativeBudget "max_evidence_rows" value.maxEvidenceRows
  let maxEvidenceBytes ← nonnegativeBudget "max_evidence_bytes" value.maxEvidenceBytes
  let maxDepth ← nonnegativeBudget "max_depth" value.maxDepth
  let maxFullScansPerSide ← nonnegativeBudget "max_full_scans_per_side" value.maxFullScansPerSide
  .ok
    { maxQueries := maxQueries.1, maxFetchedRecords := maxFetchedRecords.1
      maxApplicationResultBytes := maxApplicationResultBytes.1
      maxEvidenceRows, maxEvidenceBytes, maxDepth, maxFullScansPerSide
      maxFingerprintNodes := maxFingerprintNodes.1
      maxCoordinatorMemoryBytes := maxCoordinatorMemoryBytes.1
      statementTimeoutMilliseconds := statementTimeoutMilliseconds.1
      runTimeoutMilliseconds := runTimeoutMilliseconds.1
      maxAttempts := maxAttempts.1
      queries_pos := maxQueries.2
      fetched_pos := maxFetchedRecords.2
      result_pos := maxApplicationResultBytes.2
      nodes_pos := maxFingerprintNodes.2
      memory_pos := maxCoordinatorMemoryBytes.2
      statement_pos := statementTimeoutMilliseconds.2
      run_pos := runTimeoutMilliseconds.2
      attempts_pos := maxAttempts.2 }

/-- The loop of `_compile_evidence`, with the policies compiled so far. -/
def compileEvidenceFields (knownFields : List String) (policies : List EvidenceFieldPolicy) :
    List (String × String) → Except Refusal (List EvidenceFieldPolicy)
  | [] => .ok policies
  | (rawName, rawAction) :: rest => do
    let name ← logicalName rawName "evidence field name"
    refuseIf (name ∈ policies.map EvidenceFieldPolicy.fieldName)
      (contractValidation s!"evidence contains duplicate field {reprText name}")
    refuseIf (name ∉ knownFields)
      (contractReference s!"evidence references unknown logical field {reprText name}")
    match EvidenceAction.ofValue rawAction with
    | none => .error (unsupportedContract
        (s!"evidence action is unsupported for field {reprText name}: " ++
          s!"value={reprText rawAction}"))
    | some action =>
      compileEvidenceFields knownFields (policies ++ [{ fieldName := name, action }]) rest

def compileEvidence (source : EvidenceSource) (schemas : List (String × LogicalSchemaDefinition)) :
    Except Refusal EvidenceDefinition :=
  match CapturePolicy.ofValue source.sqlCapture with
  | none => .error (unsupportedContract
      s!"evidence SQL capture policy is unsupported: value={reprText source.sqlCapture}")
  | some sqlCapture =>
    match CapturePolicy.ofValue source.ddlCapture with
    | none => .error (unsupportedContract
        s!"evidence DDL capture policy is unsupported: value={reprText source.ddlCapture}")
    | some ddlCapture =>
      match EvidenceAction.ofValue source.unspecifiedFields with
      | none => .error (unsupportedContract
          ("evidence unspecified-fields policy is unsupported: " ++
            s!"value={reprText source.unspecifiedFields}"))
      | some unspecifiedFields => do
        let knownFields := schemas.flatMap fun entry =>
          entry.2.schema.fields.map FieldSchema.name
        let fields ← compileEvidenceFields knownFields [] source.fields
        .ok { sqlCapture, ddlCapture, fields, unspecifiedFields }

/-! ## Contracts -/

/-- The requirements of `compile_contract` on the metadata connection. -/
def requireMetadataConnection (connection : ConnectionDefinition) : Except Refusal Unit := do
  refuseIf (.metadata ∉ connection.roles) (contractValidation
    s!"metadata connection {reprText connection.connectionId} must declare role 'metadata'")
  refuseIf (connection.adapter ≠ .postgresql ∨
      isPostgres17 connection.driver connection.profile = false)
    (unsupportedContract
      (s!"metadata connection {reprText connection.connectionId} requires " ++
        "driver='psycopg' and profile='postgresql_17'"))

def requireSome {Value : Type} (values : List (String × Value)) (what : String) :
    Except Refusal Unit :=
  refuseIf (values.isEmpty = true)
    (contractValidation s!"contract must define at least one {what}")

/-- An entity with the name it is declared under. -/
def named {Source Value : Type} (name : Source → String)
    (compile : Source → Except Refusal Value) (source : Source) :
    Except Refusal (String × Value) := do
  let value ← compile source
  .ok (name source, value)

def compileContract (source : LoadedContractSource) : Except Refusal LoadedContractConfig := do
  refuseIf (source.version ≠ 1) (contractValidation "contract version must be exactly 1")
  let connectionPairs ← source.connections.mapM
    (named ConnectionSource.connectionId compileConnection)
  let connections ← uniquePairs connectionPairs "connection"
  requireSome connections "connection"
  let schemaPairs ← source.schemas.mapM (named SchemaSource.schemaId (compileSchema sha256))
  let schemas ← uniquePairs schemaPairs "logical schema"
  requireSome schemas "logical schema"
  let datasetPairs ← source.datasets.mapM
    (named DatasetSource.datasetId (compileDataset sha256 connections schemas))
  let datasets ← uniquePairs datasetPairs "dataset"
  requireSome datasets "dataset"
  let namedScopePairs ← source.namedScopes.mapM
    (named Prod.fst fun entry =>
      compileScope entry.2 datasets s!"scope {reprText entry.1}")
  let namedScopes ← uniquePairs namedScopePairs "scope"
  let consistencyPairs ← source.consistency.mapM
    (named ConsistencySource.consistencyId (compileConsistency sha256 datasets))
  let consistency ← uniquePairs consistencyPairs "consistency policy"
  requireSome consistency "consistency policy"
  let checkPairs ← source.checks.mapM
    (named CheckSource.checkId (compileCheck datasets schemas namedScopes consistency))
  let checks ← uniquePairs checkPairs "check"
  requireSome checks "check"
  let metadataConnection ← requiredReference connections source.metadataConnectionRef
    "metadata connection"
  requireMetadataConnection metadataConnection
  let execution ← compileExecution source.execution
  let evidence ← compileEvidence source.evidence schemas
  .ok
    { version := source.version
      connections := (sortedItems connections).map Prod.snd
      schemas := (sortedItems schemas).map Prod.snd
      datasets := (sortedItems datasets).map Prod.snd
      checks := (sortedItems checks).map Prod.snd
      namedScopes := sortedItems namedScopes
      consistency := sortedItems consistency
      execution, metadata := metadataConnection, evidence }

end ForensicData.Contracts
