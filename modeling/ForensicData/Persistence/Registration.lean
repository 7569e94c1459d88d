/-
ForensicData.Persistence.Registration — registering contract metadata.

A registration is one transaction: it inserts the two dataset versions, the
check revision and the artifacts where their identities are not taken, reads
each back and refuses what is stored under the identity if it is something
else (`registerOnce`). Around it is a loop that connects again and runs the
same transaction with the same candidate ids, also when it is unknown whether
the last one was committed (`attemptOnce`, `settle`). Any number of callers
take turns at the store, one attempt at a time (`RegistrationWorld.step`).
-/
import ForensicData.Lib.ConflictInsert
import ForensicData.Persistence.Anomalies
import ForensicData.Persistence.RegistrationRecords

namespace ForensicData.Persistence

open ForensicData.Canonical
open ForensicData.Contracts
open ForensicData.Lib
open ForensicData.Reporting
open ForensicData.Result

/-! ## Rows -/

/-- A row of `dfe_metadata.dataset_versions`; a payload is the canonical text of its
`jsonb` value. -/
structure DatasetVersionRow where
  datasetVersionId : Uuid
  datasetId : String
  semanticDigest : Bytes
  semanticProtocol : String
  canonicalProtocol : String
  logicalSchemaDigest : Bytes
  connectionId : String
  adapter : String
  driver : String
  profile : String
  locatorKind : String
  relationScope : Option String
  semanticPayload : String
  resolvedDefinition : String
  createdAt : StoreTime

/-- A row of `dfe_metadata.contract_versions`. -/
structure ContractVersionRow where
  contractVersionId : Uuid
  checkId : String
  revision : Int
  configVersion : Int
  semanticDigest : Bytes
  semanticProtocol : String
  canonicalProtocol : String
  comparisonSchemaDigest : Bytes
  referenceDatasetVersionId : Uuid
  targetDatasetVersionId : Uuid
  assurancePolicy : String
  semanticPayload : String
  resolvedDefinition : String
  createdAt : StoreTime

/-- A row of `dfe_metadata.code_artifacts`. -/
structure CodeArtifactRow where
  codeArtifactId : Uuid
  artifactKind : String
  dialect : String
  contentSha256 : Bytes
  sourceByteLength : ℕ
  parameters : String
  retentionState : String
  omissionReason : Option String
  contentBytes : Option Bytes
  descriptor : String
  provenance : String
  createdAt : StoreTime
  deriving DecidableEq

/-- The three tables a registration writes. -/
structure MetadataStore where
  datasets : List DatasetVersionRow
  contracts : List ContractVersionRow
  codeArtifacts : List CodeArtifactRow

def MetadataStore.empty : MetadataStore := { datasets := [], contracts := [], codeArtifacts := [] }

/-- The columns of a dataset version that is inserted. -/
def datasetVersionRow (record : DatasetVersionRecord) : DatasetVersionRow where
  datasetVersionId := record.datasetVersionId
  datasetId := record.definition.datasetId
  semanticDigest := fromHex record.definition.semanticDigest
  semanticProtocol := record.definition.semanticProtocol
  canonicalProtocol := record.definition.canonicalProtocol
  logicalSchemaDigest := fromHex record.definition.logicalSchemaDigest
  connectionId := record.definition.connectionId
  adapter := record.definition.adapter.value
  driver := record.definition.driver
  profile := record.definition.profile
  locatorKind := record.definition.locatorKind.value
  relationScope := record.definition.relationScope.map RelationScope.value
  semanticPayload := record.definition.semanticPayloadJson
  resolvedDefinition := record.definition.resolvedDefinitionJson
  createdAt := record.createdAt

/-- The columns of a check revision that is inserted. -/
def contractVersionRow (record : ContractVersionRecord) : ContractVersionRow where
  contractVersionId := record.contractVersionId
  checkId := record.definition.checkId
  revision := record.definition.revision
  configVersion := record.definition.configVersion
  semanticDigest := fromHex record.definition.semanticDigest
  semanticProtocol := record.definition.semanticProtocol
  canonicalProtocol := record.definition.canonicalProtocol
  comparisonSchemaDigest := fromHex record.definition.comparisonSchemaDigest
  referenceDatasetVersionId := record.referenceDatasetVersionId
  targetDatasetVersionId := record.targetDatasetVersionId
  assurancePolicy := record.definition.assurancePolicy.value
  semanticPayload := record.definition.semanticPayloadJson
  resolvedDefinition := record.definition.resolvedDefinitionJson
  createdAt := record.createdAt

/-- `code_artifact_parameters_json`. -/
def codeArtifactParametersJson (definition : CodeArtifactCaptureDefinition) : String :=
  canonicalSemanticJson (sqlParametersSemanticValue definition.parameters)

/-- `code_artifact_descriptor_json`. -/
def codeArtifactDescriptorJson (definition : CodeArtifactCaptureDefinition) : String :=
  canonicalSemanticJson (.object
    [("dataset_id", .string definition.datasetId), ("descriptor_version", .int 1),
     ("direction", .string definition.direction.value),
     ("purpose", .string definition.purpose.value)])

/-- `code_artifact_provenance_json`. -/
def codeArtifactProvenanceJson (definition : CodeArtifactCaptureDefinition) : String :=
  canonicalSemanticJson (.object
    [("check_id", .string definition.checkId), ("provenance_version", .int 1),
     ("revision", .int definition.revision), ("source", .string "contract")])

/-- `code_artifact_kind`. -/
def codeArtifactKind : String := "sql"

/-- The columns of an artifact that is inserted. -/
def codeArtifactRow (record : CodeArtifactRecord) : CodeArtifactRow where
  codeArtifactId := record.codeArtifactId
  artifactKind := codeArtifactKind
  dialect := record.definition.dialect.value
  contentSha256 := fromHex record.definition.contentSha256
  sourceByteLength := record.definition.sourceByteLength
  parameters := codeArtifactParametersJson record.definition
  retentionState := record.definition.captureState.value
  omissionReason := record.definition.omissionReason
  contentBytes := record.definition.contentBytes
  descriptor := codeArtifactDescriptorJson record.definition
  provenance := codeArtifactProvenanceJson record.definition
  createdAt := record.createdAt

/-! ## Reading rows -/

def storedMetadata (message : String) : Refusal := { error := .storedMetadataIntegrityError, message }

def codeArtifactIntegrity (message : String) : Refusal :=
  { error := .codeArtifactIntegrityError, message }

/-- `_require_sha256` of a digest column. -/
def digestColumn (digest : Bytes) (context : String) : Except Refusal Sha256Hex :=
  if h : isSha256Hex (toHex digest) = true then .ok ⟨toHex digest, h⟩
  else raiseValueError s!"{context} must be 64 lowercase hexadecimal digits"

/-- A member of an enumeration by its value. -/
def enumColumn {Value : Type} (found : Option Value) (enumeration : String) :
    Except Refusal Value :=
  match found with
  | some value => .ok value
  | none => raiseValueError s!"not a valid {enumeration}"

section Rules

variable {sha256 : Sha256} (rules : RegistrationRules sha256)

/-- The definition in the columns of a dataset version. -/
def datasetVersionColumns (row : DatasetVersionRow) : Except Refusal DatasetVersionDefinition := do
  let adapter ← enumColumn (Adapter.ofValue row.adapter) "Adapter"
  let locatorKind ← enumColumn (DatasetLocatorKind.ofValue row.locatorKind) "DatasetLocatorKind"
  let relationScope ← row.relationScope.mapM fun scope =>
    enumColumn (RelationScope.ofValue scope) "RelationScope"
  let semanticDigest ← digestColumn row.semanticDigest "dataset semantic digest"
  let logicalSchemaDigest ← digestColumn row.logicalSchemaDigest "dataset logical schema digest"
  let definition : DatasetVersionDefinition :=
    { datasetId := row.datasetId, semanticDigest, semanticProtocol := row.semanticProtocol
      canonicalProtocol := row.canonicalProtocol, logicalSchemaDigest
      connectionId := row.connectionId, adapter, driver := row.driver, profile := row.profile
      locatorKind, relationScope, semanticPayloadJson := row.semanticPayload
      resolvedDefinitionJson := row.resolvedDefinition }
  rules.datasetVersion definition
  .ok definition

/-- `_dataset_record`. -/
def datasetRecord (row : DatasetVersionRow) : Except Refusal DatasetVersionRecord := do
  let definition ← (datasetVersionColumns rules row).mapError fun refusal => storedMetadata
    s!"PostgreSQL dataset version row violates the typed metadata protocol: reason={refusal.message}"
  .ok { datasetVersionId := row.datasetVersionId, definition, createdAt := row.createdAt }

/-- A row of `_CONTRACT_SELECT`: a check revision with its two dataset versions. -/
structure JoinedContractRow where
  contract : ContractVersionRow
  reference : DatasetVersionRow
  target : DatasetVersionRow

/-- The record in the columns of a check revision. -/
def contractVersionColumns (row : JoinedContractRow) : Except Refusal ContractVersionRecord := do
  let semanticDigest ← digestColumn row.contract.semanticDigest "contract semantic digest"
  let comparisonSchemaDigest ← digestColumn row.contract.comparisonSchemaDigest
    "contract comparison schema digest"
  let referenceDatasetDigest ← digestColumn row.reference.semanticDigest "reference dataset digest"
  let targetDatasetDigest ← digestColumn row.target.semanticDigest "target dataset digest"
  let assurancePolicy ← enumColumn (AssurancePolicy.ofValue row.contract.assurancePolicy)
    "AssurancePolicy"
  let definition : ContractVersionDefinition :=
    { checkId := row.contract.checkId, revision := row.contract.revision
      configVersion := row.contract.configVersion, semanticDigest
      semanticProtocol := row.contract.semanticProtocol
      canonicalProtocol := row.contract.canonicalProtocol, comparisonSchemaDigest
      referenceDatasetId := row.reference.datasetId, referenceDatasetDigest
      targetDatasetId := row.target.datasetId, targetDatasetDigest, assurancePolicy
      semanticPayloadJson := row.contract.semanticPayload
      resolvedDefinitionJson := row.contract.resolvedDefinition }
  rules.contractVersion definition
  ContractVersionRecord.make
    { contractVersionId := row.contract.contractVersionId, definition
      referenceDatasetVersionId := row.contract.referenceDatasetVersionId
      targetDatasetVersionId := row.contract.targetDatasetVersionId
      createdAt := row.contract.createdAt }

/-- `_contract_record`. -/
def contractRecord (row : JoinedContractRow) : Except Refusal ContractVersionRecord :=
  (contractVersionColumns rules row).mapError fun refusal => storedMetadata
    s!"PostgreSQL contract version row violates the typed metadata protocol: reason={refusal.message}"

end Rules

/-- `_code_artifact_record`. -/
def codeArtifactRecord (sha256 : Sha256) (row : CodeArtifactRow)
    (expected : CodeArtifactCaptureDefinition) : Except Refusal CodeArtifactRecord := do
  refuseIf (∃ content ∈ row.contentBytes, content.length ≠ row.sourceByteLength ∨
      sha256.digest content ≠ row.contentSha256)
    (codeArtifactIntegrity
      "PostgreSQL retained code artifact bytes do not match their declared digest or size")
  refuseIf (row ≠ codeArtifactRow
      { codeArtifactId := row.codeArtifactId, definition := expected, createdAt := row.createdAt })
    (codeArtifactIntegrity
      "PostgreSQL code artifact capture differs from its immutable registered value")
  .ok { codeArtifactId := row.codeArtifactId, definition := expected, createdAt := row.createdAt }

/-! ## The transaction -/

/-- An error the driver raises: a lost connection, a lock or a timeout, or any other
`psycopg.Error`. -/
inductive DriverError where
  | operationalError (errorType : String) (sqlstate : Option String)
  | otherError (errorType : String) (sqlstate : Option String)
  deriving DecidableEq, Repr

/-- What an attempt raises. -/
inductive Raised where
  | driver (error : DriverError)
  | refusal (refusal : Refusal)

def uniqueViolation : Raised := .driver (.otherError "UniqueViolation" (some "23505"))

/-- `INSERT … ON CONFLICT (identity) DO NOTHING`, refused by the primary key. -/
def insertRow {Row Identity : Type} [DecidableEq Identity] (identity : Row → Identity)
    (rowId : Row → Uuid) (row : Row) (rows : List Row) : Except Raised (List Row) :=
  match insertOnConflict identity rowId row rows with
  | some after => .ok after
  | none => .error uniqueViolation

/-- What a dataset version is identified by. -/
def DatasetVersionRow.identity (row : DatasetVersionRow) : String × Bytes :=
  (row.datasetId, row.semanticDigest)

/-- What a check revision is identified by. -/
def ContractVersionRow.identity (row : ContractVersionRow) : String × Int :=
  (row.checkId, row.revision)

def DatasetVersionDefinition.identity (definition : DatasetVersionDefinition) : String × Bytes :=
  (definition.datasetId, fromHex definition.semanticDigest)

def ContractVersionDefinition.identity (definition : ContractVersionDefinition) : String × Int :=
  (definition.checkId, definition.revision)

namespace MetadataStore

/-- `_DATASET_SELECT … WHERE dataset_id = … AND semantic_digest = …`. -/
def selectDataset (store : MetadataStore) (identity : String × Bytes) : Option DatasetVersionRow :=
  rowAt DatasetVersionRow.identity store.datasets identity

/-- The joins of `_CONTRACT_SELECT`. -/
def join (store : MetadataStore) (row : ContractVersionRow) : Option JoinedContractRow := do
  let reference ← rowAt DatasetVersionRow.datasetVersionId store.datasets
    row.referenceDatasetVersionId
  let target ← rowAt DatasetVersionRow.datasetVersionId store.datasets row.targetDatasetVersionId
  some { contract := row, reference, target }

/-- `_CONTRACT_SELECT … WHERE check_id = … AND revision = …`. -/
def selectContract (store : MetadataStore) (identity : String × Int) : Option JoinedContractRow :=
  (rowAt ContractVersionRow.identity store.contracts identity).bind store.join

/-- `_ARTIFACT_SELECT … WHERE code_artifact_id = …`. -/
def selectCodeArtifact (store : MetadataStore) (id : Uuid) : Option CodeArtifactRow :=
  rowAt CodeArtifactRow.codeArtifactId store.codeArtifacts id

end MetadataStore

/-- `if condition: raise refusal`, of an attempt. -/
def raiseIf (condition : Prop) [Decidable condition] (refusal : Refusal) : Except Raised Unit :=
  if condition then .error (.refusal refusal) else .ok ()

/-- A refusal of a check is what the attempt raises. -/
def checked {Value : Type} (result : Except Refusal Value) : Except Raised Value :=
  result.mapError Raised.refusal

def datasetConflict (definition : DatasetVersionDefinition) : Refusal where
  error := .datasetIdentityConflictError
  message := "PostgreSQL dataset semantic identity is bound to a different immutable " ++
    s!"definition: dataset_id='{definition.datasetId}', digest='{definition.semanticDigest.1}'"

def contractConflict (definition stored : ContractVersionDefinition) : Refusal where
  error := .immutableContractRevisionConflictError
  message := "PostgreSQL check revision is already bound to a different immutable contract: " ++
    s!"check_id='{definition.checkId}', revision={definition.revision}, " ++
    s!"requested_digest='{definition.semanticDigest.1}', " ++
    s!"stored_digest='{stored.semanticDigest.1}'"

section Rules

variable {sha256 : Sha256} (rules : RegistrationRules sha256)

/-- `_register_dataset`. -/
def registerDataset (now : StoreTime) (store : MetadataStore)
    (definition : DatasetVersionDefinition) (candidateId : Uuid) :
    Except Raised (DatasetVersionRecord × MetadataStore) := do
  let datasets ← insertRow DatasetVersionRow.identity DatasetVersionRow.datasetVersionId
    (datasetVersionRow { datasetVersionId := candidateId, definition, createdAt := now })
    store.datasets
  let after := { store with datasets }
  match after.selectDataset definition.identity with
  | none => .error (.refusal (storedMetadata
      "PostgreSQL dataset registration produced no durable identity row"))
  | some row => do
    let record ← checked (datasetRecord rules row)
    raiseIf (record.definition ≠ definition) (datasetConflict definition)
    .ok (record, after)

/-- `_register_contract`. -/
def registerContract (now : StoreTime) (store : MetadataStore)
    (definition : ContractVersionDefinition) (candidateId referenceDatasetVersionId
    targetDatasetVersionId : Uuid) : Except Raised (ContractVersionRecord × MetadataStore) := do
  let contracts ← insertRow ContractVersionRow.identity ContractVersionRow.contractVersionId
    (contractVersionRow
      { contractVersionId := candidateId, definition, referenceDatasetVersionId
        targetDatasetVersionId, createdAt := now })
    store.contracts
  let after := { store with contracts }
  match after.selectContract definition.identity with
  | none => .error (.refusal (storedMetadata
      "PostgreSQL contract registration produced no durable revision row"))
  | some row => do
    let record ← checked (contractRecord rules row)
    raiseIf (record.definition ≠ definition ∨
        record.referenceDatasetVersionId ≠ referenceDatasetVersionId ∨
        record.targetDatasetVersionId ≠ targetDatasetVersionId)
      (contractConflict definition record.definition)
    .ok (record, after)

/-- `_register_code_artifact`. -/
def registerCodeArtifact (sha256 : Sha256) (now : StoreTime) (store : MetadataStore)
    (artifactId : Uuid) (definition : CodeArtifactCaptureDefinition) :
    Except Raised (CodeArtifactRecord × MetadataStore) := do
  let codeArtifacts ← insertRow CodeArtifactRow.codeArtifactId CodeArtifactRow.codeArtifactId
    (codeArtifactRow { codeArtifactId := artifactId, definition, createdAt := now })
    store.codeArtifacts
  let after := { store with codeArtifacts }
  match after.selectCodeArtifact artifactId with
  | none => .error (.refusal (codeArtifactIntegrity
      "PostgreSQL code artifact registration produced no capture row"))
  | some row => do
    let record ← checked (codeArtifactRecord sha256 row definition)
    .ok (record, after)

/-- The artifacts of a registration, one after the other. -/
def registerCodeArtifacts (sha256 : Sha256) (now : StoreTime) (store : MetadataStore) :
    List (Uuid × CodeArtifactCaptureDefinition) →
    Except Raised (List CodeArtifactRecord × MetadataStore)
  | [] => .ok ([], store)
  | (artifactId, definition) :: rest => do
    let (record, after) ← registerCodeArtifact sha256 now store artifactId definition
    let (records, final) ← registerCodeArtifacts sha256 now after rest
    .ok (record :: records, final)

/-- A call of `register_postgres_metadata`: its definition, and the candidate ids it
has drawn. -/
structure RegistrationCall where
  definition : MetadataRegistrationDefinition
  admitted : rules.Admits definition
  referenceId : Uuid
  targetId : Uuid
  contractId : Uuid
  artifactIds : List Uuid
  drawn : artifactIds.length = definition.codeArtifacts.length
  maxAttempts : ℕ

variable {rules}

/-- The candidate ids of the artifacts with the artifacts. -/
def RegistrationCall.artifacts (call : RegistrationCall rules) :
    List (Uuid × CodeArtifactCaptureDefinition) :=
  call.artifactIds.zip call.definition.codeArtifacts

/-- `_register_once` up to its commit. -/
def registerOnce (call : RegistrationCall rules) (now : StoreTime) (store : MetadataStore) :
    Except Raised (MetadataRegistration × MetadataStore) := do
  let (reference, store) ← registerDataset rules now store call.definition.referenceDataset
    call.referenceId
  let (target, store) ← registerDataset rules now store call.definition.targetDataset call.targetId
  let (contract, store) ← registerContract rules now store call.definition.contract call.contractId
    reference.datasetVersionId target.datasetVersionId
  let (codeArtifacts, store) ← registerCodeArtifacts sha256 now store call.artifacts
  let registration ← checked (MetadataRegistration.make rules
    { referenceDataset := reference, targetDataset := target, contract, codeArtifacts })
  .ok (registration, store)

end Rules

/-! ## Attempts -/

def DriverError.text : DriverError → String
  | .operationalError errorType sqlstate => s!"error_type={errorType}, sqlstate={sqlstate}"
  | .otherError errorType sqlstate => s!"error_type={errorType}, sqlstate={sqlstate}"

section Rules

variable {sha256 : Sha256} {rules : RegistrationRules sha256}

/-- The `except` clauses of `_register_once`. -/
def persistenceError (call : RegistrationCall rules) : Raised → Raised
  | .driver (.otherError errorType sqlstate) => .refusal
    { error := .metadataPersistenceError
      message := "PostgreSQL metadata registration failed and was rolled back: " ++
        s!"check_id='{call.definition.contract.checkId}', " ++
        s!"revision={call.definition.contract.revision}, " ++
        s!"contract_digest='{call.definition.contract.semanticDigest.1}', " ++
        DriverError.text (.otherError errorType sqlstate) }
  | raised => raised

/-- The two errors that report a conflict. -/
def IsConflict (refusal : Refusal) : Prop :=
  refusal.error = .datasetIdentityConflictError ∨
    refusal.error = .immutableContractRevisionConflictError

/-- What else can end an attempt: the driver, or a check of the server and of its
schema. -/
inductive Interference where
  | driver (error : DriverError)
  | check (refusal : Refusal) (other : ¬ IsConflict refusal)

def Interference.raised : Interference → Raised
  | .driver error => .driver error
  | .check refusal _ => .refusal refusal

/-- What happens to an attempt: it does not come to its transaction, the transaction
is rolled back, or it runs to its commit, of which the answer may be lost. -/
inductive AttemptEvent where
  | notConnected (raised : Interference)
  | rolledBack (raised : Interference)
  | commits (now : StoreTime) (lost : Option Interference)

/-- One attempt, the transaction with its outcome and what it leaves in the store. -/
def attemptOnce (call : RegistrationCall rules) (store : MetadataStore) :
    AttemptEvent → Except Raised MetadataRegistration × MetadataStore
  | .notConnected raised => (.error raised.raised, store)
  | .rolledBack raised => (.error (persistenceError call raised.raised), store)
  | .commits now lost =>
    match registerOnce call now store with
    | .error raised => (.error (persistenceError call raised), store)
    | .ok (registration, after) =>
      match lost with
      | none => (.ok registration, after)
      | some raised => (.error (persistenceError call raised.raised), after)

/-- Where a call is: at an attempt, or at its end. -/
inductive Progress where
  | attempting (attempt : ℕ)
  | ended (outcome : Except Refusal MetadataRegistration)

/-- `_database_error_message`, without the settings. -/
def connectionError (error : DriverError) (attempts : ℕ) : Refusal where
  error := .metadataConnectionError
  message := "PostgreSQL metadata operation failed after bounded attempts: " ++
    s!"operation='register_metadata', attempts={attempts}, {error.text}"

/-- `_run_with_retries` after an attempt. -/
def settle (maxAttempts attempt : ℕ) : Except Raised MetadataRegistration → Progress
  | .ok registration => .ended (.ok registration)
  | .error (.refusal refusal) => .ended (.error refusal)
  | .error (.driver (.otherError errorType sqlstate)) =>
    .ended (.error (connectionError (.otherError errorType sqlstate) attempt))
  | .error (.driver (.operationalError errorType sqlstate)) =>
    if attempt < maxAttempts then .attempting (attempt + 1)
    else .ended (.error (connectionError (.operationalError errorType sqlstate) maxAttempts))

/-! ## Callers -/

variable {ι : Type} [DecidableEq ι]

/-- The store and where each call is. -/
structure RegistrationWorld (ι : Type) where
  store : MetadataStore
  progress : ι → Progress

def RegistrationWorld.initial : RegistrationWorld ι where
  store := .empty
  progress := fun _ => .attempting 1

/-- An attempt of one of the calls; a call that has ended makes none. -/
def RegistrationWorld.step (calls : ι → RegistrationCall rules) (world : RegistrationWorld ι)
    (next : ι × AttemptEvent) : RegistrationWorld ι :=
  match world.progress next.1 with
  | .ended _ => world
  | .attempting attempt =>
    let (outcome, store) := attemptOnce (calls next.1) world.store next.2
    { store
      progress := Function.update world.progress next.1
        (settle (calls next.1).maxAttempts attempt outcome) }

/-- Attempts one after the other. -/
def RegistrationWorld.run (calls : ι → RegistrationCall rules)
    (events : List (ι × AttemptEvent)) : RegistrationWorld ι :=
  events.foldl (RegistrationWorld.step calls) .initial

end Rules

end ForensicData.Persistence
