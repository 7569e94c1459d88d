/-
ForensicData.Contracts.Entities — the entities of a contract.

Connections, logical schemas, SQL artifacts and datasets, each resolved
against the entities compiled before it. A dictionary is the list of its
pairs, whose names `_unique_pairs` makes distinct.
-/
import ForensicData.Contracts.Model
import ForensicData.Contracts.Source
import Mathlib.Data.List.Sort

namespace ForensicData.Contracts

open ForensicData.Canonical

/-! ## Text in messages -/

/-- `repr` of a text without quotes or escapes in it. -/
def reprText (value : String) : String := s!"'{value}'"

/-- `repr` of a tuple of texts. -/
def reprTuple : List String → String
  | [value] => s!"({reprText value},)"
  | values => "(" ++ ", ".intercalate (values.map reprText) ++ ")"

/-- `repr` of a list of texts. -/
def reprList (values : List String) : String :=
  "[" ++ ", ".intercalate (values.map reprText) ++ "]"

/-! ## Names and references -/

/-- `_validate_text`; a `String` has no surrogates to refuse. -/
def validateText (value context : String) : Except Refusal Unit :=
  match value.toList.findIdx? (· = Char.ofNat 0) with
  | some index => .error (contractValidation s!"{context} contains U+0000 at character {index}")
  | none => .ok ()

def logicalName (value context : String) : Except Refusal String := do
  validateText value context
  refuseIf (isBlank value = true) (contractValidation s!"{context} must not be blank")
  .ok value

def physicalName (value context : String) : Except Refusal String := do
  validateText value context
  refuseIf (value = "") (contractValidation s!"{context} must not be empty")
  .ok value

def requiredReference {Value : Type} (values : List (String × Value)) (reference context : String) :
    Except Refusal Value := do
  let validatedReference ← logicalName reference context
  match values.lookup validatedReference with
  | some value => .ok value
  | none => .error (contractReference
      s!"{context} references unknown id {reprText validatedReference}")

/-- The loop of `_unique_pairs`, with the pairs entered so far. -/
def uniquePairsFrom {Value : Type} (entityName : String) (result : List (String × Value)) :
    List (String × Value) → Except Refusal (List (String × Value))
  | [] => .ok result
  | (rawName, value) :: rest => do
    let name ← logicalName rawName s!"{entityName} id"
    refuseIf (name ∈ result.map Prod.fst)
      (contractValidation s!"duplicate {entityName} id {reprText name}")
    uniquePairsFrom entityName (result ++ [(name, value)]) rest

def uniquePairs {Value : Type} (pairs : List (String × Value)) (entityName : String) :
    Except Refusal (List (String × Value)) :=
  uniquePairsFrom entityName [] pairs

/-- `sorted(values.items())`: the names are distinct. -/
def sortedItems {Value : Type} (values : List (String × Value)) : List (String × Value) :=
  values.insertionSort fun a b => a.1 ≤ b.1

/-- The loop of `_ordered_unique_text`, with the names seen so far. -/
def orderedUniqueTextFrom (context : String) (result : List String) :
    List String → Except Refusal (List String)
  | [] => .ok result
  | value :: rest => do
    let name ← logicalName value context
    refuseIf (name ∈ result)
      (contractValidation s!"{context} contains duplicate value {reprText name}")
    orderedUniqueTextFrom context (result ++ [name]) rest

def orderedUniqueText (values : List String) (context : String) : Except Refusal (List String) := do
  refuseIf (values = []) (contractValidation s!"{context} must not be empty")
  orderedUniqueTextFrom context [] values

/-- The last of the fields with a name, as in a dictionary built from them. -/
def fieldNamed (fields : List FieldSchema) (name : String) : Option FieldSchema :=
  fields.reverse.find? (·.name = name)

def orderedKnownFields (rawNames : List String) (schema : LogicalSchemaDefinition)
    (context : String) : Except Refusal (List String) := do
  let names ← orderedUniqueText rawNames context
  names.forM fun name =>
    match fieldNamed schema.schema.fields name with
    | none => .error (contractReference s!"{context} references unknown field {reprText name}")
    | some field => refuseIf (field.nullable = true)
        (contractValidation s!"{context} field {reprText name} must be non-nullable")
  .ok names

/-- `_same_logical_type`. -/
def sameLogicalType (left right : FieldSchema) : Bool :=
  decide (left.logicalType = right.logicalType) && decide (left.parameters = right.parameters) &&
    decide (left.normalization = right.normalization)

/-- `_parameter_definitions_are_ordered_subset`, after the fields up to
`lastPosition`. -/
def orderedSubsetAfter (expected : List FieldSchema) (lastPosition : Int) :
    List FieldSchema → Bool
  | [] => true
  | field :: rest =>
    match (expected.zipIdx.reverse.find? (·.1.name = field.name)) with
    | none => false
    | some (expectedField, position) =>
      decide (lastPosition < position) && sameLogicalType expectedField field &&
        orderedSubsetAfter expected position rest

def parameterDefinitionsAreOrderedSubset (expected actual : List FieldSchema) : Bool :=
  orderedSubsetAfter expected (-1) actual

/-! ## Connections -/

/-- The pairs of driver and profile a match function accepts. -/
def matchMssqlRuntimeProfile (driver profile : String) : Bool :=
  decide ((driver, profile) = ("pyodbc", "mssql_2022")) ||
    decide ((driver, profile) = ("pyodbc", "mssql_2016"))

/-- `match_postgres_runtime_profile(...) is PostgresRuntimeProfile.POSTGRES_17`. -/
def isPostgres17 (driver profile : String) : Bool :=
  decide ((driver, profile) = ("psycopg", "postgresql_17"))

/-- `match_greenplum_runtime_profile(...) is GreenplumRuntimeProfile.GREENGAGE`. -/
def isGreengage (driver profile : String) : Bool :=
  decide ((driver, profile) = ("psycopg", "greengage"))

/-- `match_greenplum_runtime_profile(...) is GreenplumRuntimeProfile.ORIGINAL_GREENPLUM`. -/
def isOriginalGreenplum (driver profile : String) : Bool :=
  decide ((driver, profile) = ("psycopg2", "original_greenplum"))

inductive ClickHouseRuntimeProfile where
  | lts
  | legacy218LtsSource
  deriving DecidableEq

def matchClickhouseRuntimeProfile (driver profile : String) : Option ClickHouseRuntimeProfile :=
  if (driver, profile) = ("clickhouse-connect", "clickhouse_lts") then some .lts
  else if (driver, profile) = ("clickhouse-connect", "clickhouse_21_8_lts") then
    some .legacy218LtsSource
  else none

/-- The loop of `_compile_connection` over the roles. -/
def compileRoles (connectionId : String) (roles : List ConnectionRole) :
    List String → Except Refusal (List ConnectionRole)
  | [] => .ok roles
  | rawRole :: rest =>
    match ConnectionRole.ofValue rawRole with
    | none => .error (unsupportedContract
        s!"connection {reprText connectionId} role is unsupported: role={reprText rawRole}")
    | some role => do
      refuseIf (role ∈ roles) (contractValidation
        s!"connection {reprText connectionId} contains duplicate role {reprText role.value}")
      compileRoles connectionId (roles ++ [role]) rest

/-- The driver, profile and roles that each adapter requires. -/
def requireAdapterProfile (connectionId driver profile : String) (roles : List ConnectionRole) :
    Adapter → Except Refusal Unit
  | .postgresql => .ok ()
  | .mssql => do
    refuseIf (matchMssqlRuntimeProfile driver profile = false) (unsupportedContract
      (s!"connection {reprText connectionId} MSSQL endpoint requires an exact supported " ++
        "driver/profile pair: ('pyodbc', 'mssql_2022') or ('pyodbc', 'mssql_2016')"))
    refuseIf (roles ≠ [.source]) (unsupportedContract
      (s!"connection {reprText connectionId} profile {reprText profile} is source-only " ++
        "and must declare exactly role 'source'"))
  | .greengage => do
    refuseIf (isGreengage driver profile = false) (unsupportedContract
      (s!"connection {reprText connectionId} Greengage endpoint requires exact " ++
        "driver/profile pair ('psycopg', 'greengage')"))
    refuseIf (.target ∉ roles) (unsupportedContract
      s!"connection {reprText connectionId} profile {reprText profile} must declare role 'target'")
  | .greenplum => do
    refuseIf (isOriginalGreenplum driver profile = false) (unsupportedContract
      (s!"connection {reprText connectionId} original Greenplum endpoint requires exact " ++
        "driver/profile pair ('psycopg2', 'original_greenplum')"))
    refuseIf (.source ∉ roles) (unsupportedContract
      s!"connection {reprText connectionId} profile {reprText profile} must declare role 'source'")
  | .clickhouse =>
    match matchClickhouseRuntimeProfile driver profile with
    | none => .error (unsupportedContract
        (s!"connection {reprText connectionId} ClickHouse endpoint requires driver " ++
          "'clickhouse-connect' and profile 'clickhouse_lts' or 'clickhouse_21_8_lts'"))
    | some runtimeProfile =>
      let expectedRole : ConnectionRole :=
        if runtimeProfile = .legacy218LtsSource then .source else .target
      refuseIf (roles ≠ [expectedRole]) (unsupportedContract
        (s!"connection {reprText connectionId} profile {reprText profile} must declare exactly " ++
          s!"role {reprText expectedRole.value}"))

def compileConnection (source : ConnectionSource) : Except Refusal ConnectionDefinition := do
  let connectionId ← logicalName source.connectionId "connection id"
  let context := s!"connection {reprText connectionId}"
  match Adapter.ofValue source.adapter with
  | none => .error (unsupportedContract
      s!"{context} adapter is unsupported: adapter={reprText source.adapter}")
  | some adapter => do
    let driver ← logicalName source.driver s!"{context} driver"
    let profile ← logicalName source.profile s!"{context} profile"
    let secretRef ← logicalName source.secretRef s!"{context} secret_ref"
    refuseIf (source.roles = [])
      (contractValidation s!"{context} must declare at least one role")
    let roles ← compileRoles connectionId [] source.roles
    requireAdapterProfile connectionId driver profile roles adapter
    .ok { connectionId, adapter, driver, profile, roles, secretRef }

/-! ## Logical schemas -/

/-- The handler of `_field_schema`. -/
def rewrapSchemaError {Value : Type} (context : String) :
    Except Refusal Value → Except Refusal Value
  | .ok value => .ok value
  | .error refusal =>
    if refusal.error.isInstance .schemaValidationError then
      .error (contractValidation s!"{context} is invalid: {refusal.message}")
    else .error refusal

/-- The logical types without parameters; the match of `LogicalType(source.kind)`
that `_field_schema` reaches. -/
def plainLogicalType : String → Option LogicalType
  | "int64" => some .int64
  | "boolean" => some .boolean
  | "string" => some .string
  | "date" => some .date
  | _ => none

def timestampFieldSchema (name context : String) (source : LogicalTypeSource) (nullable : Bool)
    (logicalType : LogicalType) : Except Refusal FieldSchema :=
  match source.precision, source.scale with
  | some precision, none => do
    let parameters ← TimestampParameters.make precision
    FieldSchema.make name logicalType nullable (.timestamp parameters) .none
  | _, _ => .error (contractValidation
      s!"{context} timestamp requires precision and does not accept scale")

def fieldSchema (name : String) (source : LogicalTypeSource) (nullable : Bool) (context : String) :
    Except Refusal FieldSchema :=
  rewrapSchemaError context
    (match source.kind with
      | "decimal" =>
        match source.precision, source.scale with
        | some precision, some scale => do
          let parameters ← DecimalParameters.make precision scale
          FieldSchema.make name .decimal nullable (.decimal parameters) .none
        | _, _ => .error (contractValidation s!"{context} decimal requires precision and scale")
      | "timestamp_local" => timestampFieldSchema name context source nullable .timestampLocal
      | "timestamp_instant" => timestampFieldSchema name context source nullable .timestampInstant
      | kind => do
        refuseIf (source.precision.isSome = true ∨ source.scale.isSome = true)
          (contractValidation
            s!"{context} type {reprText kind} does not accept precision or scale")
        match plainLogicalType kind with
        | none => .error (unsupportedContract
            s!"{context} logical type is unsupported: kind={reprText kind}")
        | some logicalType => FieldSchema.make name logicalType nullable .none .none)

/-- The loop of `_compile_schema`, with the fields compiled so far. -/
def compileFields (schemaId : String) (fields : List FieldSchema) :
    List SchemaFieldSource → Except Refusal (List FieldSchema)
  | [] => .ok fields
  | fieldSource :: rest => do
    let name ← logicalName fieldSource.name s!"logical schema {reprText schemaId} field name"
    let context := s!"logical schema {reprText schemaId} field {reprText name}"
    refuseIf (name ∈ fields.map FieldSchema.name) (contractValidation
      s!"logical schema {reprText schemaId} contains duplicate field {reprText name}")
    refuseIf (fieldSource.normalization ≠ Normalization.none.value) (unsupportedContract
      (s!"{context} normalization is unsupported: " ++
        s!"normalization={reprText fieldSource.normalization}"))
    refuseIf (fieldSource.equality ≠ FieldEquality.exact.value) (unsupportedContract
      s!"{context} equality is unsupported: equality={reprText fieldSource.equality}")
    let field ← fieldSchema name fieldSource.logicalType fieldSource.nullable context
    compileFields schemaId (fields ++ [field]) rest

variable (sha256 : Sha256)

def compileSchema (source : SchemaSource) : Except Refusal LogicalSchemaDefinition := do
  let schemaId ← logicalName source.schemaId "logical schema id"
  refuseIf (source.fields = [])
    (contractValidation s!"logical schema {reprText schemaId} must contain fields")
  let fields ← compileFields schemaId [] source.fields
  let schema ← CanonicalSchema.make protocolName fields
  .ok
    { schemaId, schema, equality := fields.map fun _ => .exact
      logicalSchemaDigest := schemaDigestHex sha256 schema }

/-! ## SQL artifacts -/

/-- The loop of `_compile_sql_artifact` over the parameters. -/
def compileSqlParameters (context : String) (parameters : List SqlParameterDefinition) :
    List SqlParameterSource → Except Refusal (List SqlParameterDefinition)
  | [] => .ok parameters
  | parameter :: rest => do
    let name ← logicalName parameter.name s!"{context} parameter name"
    refuseIf (name ∈ parameters.map SqlParameterDefinition.name)
      (contractValidation s!"{context} contains duplicate parameter {reprText name}")
    let field ← fieldSchema name parameter.logicalType false
      s!"{context} parameter {reprText name}"
    compileSqlParameters context (parameters ++ [{ name, field }]) rest

def compileSqlArtifact (source : SqlArtifactSource) (adapter : Adapter) (context : String) :
    Except Refusal SqlArtifactDefinition := do
  refuseIf (source.dialect ≠ SqlDialect.postgresql.value) (unsupportedContract
    s!"{context} dialect is unsupported: dialect={reprText source.dialect}")
  refuseIf (adapter ≠ .postgresql) (unsupportedContract
    (s!"{context} dialect {reprText SqlDialect.postgresql.value} does not match adapter " ++
      reprText adapter.value))
  refuseIf (isBlank source.content = true)
    (contractValidation s!"{context} must not be empty")
  refuseIf (isSha256Hex source.contentSha256 = false)
    (contractValidation s!"{context} content digest must be 64 lowercase hex digits")
  let parameters ← compileSqlParameters context [] source.parameters
  SqlArtifactDefinition.make sha256 .postgresql parameters source.content source.contentSha256

/-! ## Datasets -/

def compileRelationLocator (source : RelationSource) (connection : ConnectionDefinition)
    (datasetId : String) : Except Refusal RelationLocator := do
  let context := s!"dataset {reprText datasetId} {connection.adapter.value} relation"
  refuseIf (source.catalog.isSome = true)
    (unsupportedContract s!"{context} catalog is unsupported; use null")
  match source.schema with
  | none => .error (unsupportedContract s!"{context} requires an explicit schema")
  | some schemaName =>
    match RelationScope.ofValue source.relationScope with
    | none => .error (unsupportedContract
        s!"{context} scope is unsupported: relation_scope={reprText source.relationScope}")
    | some relationScope => do
      refuseIf (connection.adapter ≠ .postgresql ∧ relationScope ≠ .physicalOnly)
        (unsupportedContract (s!"{context} requires physical_only scope: " ++
          s!"relation_scope={reprText relationScope.value}"))
      let schema ← physicalName schemaName s!"dataset {reprText datasetId} relation schema"
      let name ← physicalName source.name s!"dataset {reprText datasetId} relation name"
      .ok { catalog := none, schema, name, relationScope }

def compileDatasetLocator (connection : ConnectionDefinition) (datasetId : String) :
    DatasetLocatorSource → Except Refusal DatasetLocator
  | .relation source => do
    let locator ← compileRelationLocator source connection datasetId
    .ok (.relation locator)
  | .sqlArtifact source => do
    let artifact ← compileSqlArtifact sha256 source connection.adapter
      s!"dataset {reprText datasetId} SQL artifact"
    .ok (.sqlArtifact artifact)

def compileProjectedField (datasetId : String) (projected : ProjectionSource) :
    Except Refusal ProjectedField := do
  let fieldName ← logicalName projected.field s!"dataset {reprText datasetId} projected field"
  let columnName ← physicalName projected.column s!"dataset {reprText datasetId} projected column"
  .ok { fieldName, columnName }

def compileDataset (connections : List (String × ConnectionDefinition))
    (schemas : List (String × LogicalSchemaDefinition)) (source : DatasetSource) :
    Except Refusal DatasetDefinition := do
  let datasetId ← logicalName source.datasetId "dataset id"
  let context := s!"dataset {reprText datasetId}"
  let connection ← requiredReference connections source.connectionRef s!"{context} connection"
  let logicalSchema ← requiredReference schemas source.logicalSchemaRef s!"{context} logical schema"
  let locator ← compileDatasetLocator sha256 connection datasetId source.locator
  let expectedFields := logicalSchema.schema.fields.map FieldSchema.name
  let projectedFields := source.projection.map ProjectionSource.field
  refuseIf (projectedFields ≠ expectedFields) (contractValidation
    (s!"{context} projection must cover logical schema fields exactly once and in order: " ++
      s!"expected={reprTuple expectedFields}, actual={reprTuple projectedFields}"))
  let projection ← source.projection.mapM (compileProjectedField datasetId)
  let grain ← orderedKnownFields source.grain logicalSchema s!"{context} grain"
  .ok { datasetId, connection, locator, logicalSchema, projection, grain }

end ForensicData.Contracts
