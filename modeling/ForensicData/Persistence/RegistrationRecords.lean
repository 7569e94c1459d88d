/-
ForensicData.Persistence.RegistrationRecords — what a metadata registration is
made of.

A definition is what a contract says of a dataset version, of a check revision
or of one of its SQL artifacts; a record is a definition with the id and the
time under which it is stored. What a definition class checks when one is made
is `RegistrationRules`.
-/
import ForensicData.Contracts.Identity
import ForensicData.Result.Model

namespace ForensicData.Persistence

open ForensicData.Canonical
open ForensicData.Contracts
open ForensicData.Lib
open ForensicData.Result

/-! ## Enumerations -/

inductive ArtifactPurpose where
  | projection
  | readiness
  deriving DecidableEq, Repr

def ArtifactPurpose.value : ArtifactPurpose → String
  | .projection => "projection"
  | .readiness => "readiness"

inductive ArtifactDirection where
  | reference
  | target
  deriving DecidableEq, Repr

def ArtifactDirection.value : ArtifactDirection → String
  | .reference => "reference"
  | .target => "target"

inductive CodeCaptureState where
  | retained
  | notRetained
  deriving DecidableEq, Repr

def CodeCaptureState.value : CodeCaptureState → String
  | .retained => "retained"
  | .notRetained => "not_retained"

def CodeCaptureState.ofValue : String → Option CodeCaptureState
  | "retained" => some .retained
  | "not_retained" => some .notRetained
  | _ => none

inductive DatasetLocatorKind where
  | relation
  | sql
  deriving DecidableEq, Repr

def DatasetLocatorKind.value : DatasetLocatorKind → String
  | .relation => "relation"
  | .sql => "sql"

def DatasetLocatorKind.ofValue : String → Option DatasetLocatorKind
  | "relation" => some .relation
  | "sql" => some .sql
  | _ => none

/-! ## Definitions -/

structure CodeArtifactCaptureDefinition where
  direction : ArtifactDirection
  purpose : ArtifactPurpose
  datasetId : String
  checkId : String
  revision : Int
  dialect : SqlDialect
  parameters : List SqlParameterDefinition
  contentSha256 : Sha256Hex
  sourceByteLength : ℕ
  captureState : CodeCaptureState
  contentBytes : Option Bytes
  omissionReason : Option String

structure DatasetVersionDefinition where
  datasetId : String
  semanticDigest : Sha256Hex
  semanticProtocol : String
  canonicalProtocol : String
  logicalSchemaDigest : Sha256Hex
  connectionId : String
  adapter : Adapter
  driver : String
  profile : String
  locatorKind : DatasetLocatorKind
  relationScope : Option RelationScope
  semanticPayloadJson : String
  resolvedDefinitionJson : String
  deriving DecidableEq

structure ContractVersionDefinition where
  checkId : String
  revision : Int
  configVersion : Int
  semanticDigest : Sha256Hex
  semanticProtocol : String
  canonicalProtocol : String
  comparisonSchemaDigest : Sha256Hex
  referenceDatasetId : String
  referenceDatasetDigest : Sha256Hex
  targetDatasetId : String
  targetDatasetDigest : Sha256Hex
  assurancePolicy : AssurancePolicy
  semanticPayloadJson : String
  resolvedDefinitionJson : String
  deriving DecidableEq

structure MetadataRegistrationDefinition where
  referenceDataset : DatasetVersionDefinition
  targetDataset : DatasetVersionDefinition
  contract : ContractVersionDefinition
  codeArtifacts : List CodeArtifactCaptureDefinition

/-- The contract is one of the two datasets. -/
structure ClosesOverDatasets (definition : MetadataRegistrationDefinition) : Prop where
  reference_id : definition.contract.referenceDatasetId = definition.referenceDataset.datasetId
  reference_digest :
    definition.contract.referenceDatasetDigest = definition.referenceDataset.semanticDigest
  target_id : definition.contract.targetDatasetId = definition.targetDataset.datasetId
  target_digest : definition.contract.targetDatasetDigest = definition.targetDataset.semanticDigest

/-- The checks of the definition classes, their `__post_init__`, with what the
store relies on of them. -/
structure RegistrationRules (sha256 : Sha256) where
  datasetVersion : DatasetVersionDefinition → Except Refusal Unit
  contractVersion : ContractVersionDefinition → Except Refusal Unit
  codeArtifact : CodeArtifactCaptureDefinition → Except Refusal Unit
  registration : MetadataRegistrationDefinition → Except Refusal Unit
  distinct_datasets : ∀ {contract}, contractVersion contract = .ok () →
    contract.referenceDatasetId ≠ contract.targetDatasetId
  retained_content : ∀ {artifact}, codeArtifact artifact = .ok () →
    ∀ content ∈ artifact.contentBytes, content.length = artifact.sourceByteLength ∧
      hexText (sha256.digest content) = artifact.contentSha256.1.toList
  closes : ∀ {definition}, registration definition = .ok () → ClosesOverDatasets definition

/-- Definitions that could be made. -/
structure RegistrationRules.Admits {sha256 : Sha256} (rules : RegistrationRules sha256)
    (definition : MetadataRegistrationDefinition) : Prop where
  referenceDataset : rules.datasetVersion definition.referenceDataset = .ok ()
  targetDataset : rules.datasetVersion definition.targetDataset = .ok ()
  contract : rules.contractVersion definition.contract = .ok ()
  codeArtifacts : ∀ artifact ∈ definition.codeArtifacts, rules.codeArtifact artifact = .ok ()
  registration : rules.registration definition = .ok ()

/-! ## Records -/

/-- A time of the store's clock, in microseconds. -/
abbrev StoreTime := ℕ

structure DatasetVersionRecord where
  datasetVersionId : Uuid
  definition : DatasetVersionDefinition
  createdAt : StoreTime

structure ContractVersionRecord where
  contractVersionId : Uuid
  definition : ContractVersionDefinition
  referenceDatasetVersionId : Uuid
  targetDatasetVersionId : Uuid
  createdAt : StoreTime

structure CodeArtifactRecord where
  codeArtifactId : Uuid
  definition : CodeArtifactCaptureDefinition
  createdAt : StoreTime

structure MetadataRegistration where
  referenceDataset : DatasetVersionRecord
  targetDataset : DatasetVersionRecord
  contract : ContractVersionRecord
  codeArtifacts : List CodeArtifactRecord

namespace MetadataRegistration

/-- The definitions of the records. -/
def definition (registration : MetadataRegistration) : MetadataRegistrationDefinition where
  referenceDataset := registration.referenceDataset.definition
  targetDataset := registration.targetDataset.definition
  contract := registration.contract.definition
  codeArtifacts := registration.codeArtifacts.map CodeArtifactRecord.definition

/-- `MetadataRegistration(...)`. -/
def make {sha256 : Sha256} (rules : RegistrationRules sha256) (registration : MetadataRegistration) :
    Except Refusal MetadataRegistration := do
  refuseIf (¬ (registration.codeArtifacts.map CodeArtifactRecord.codeArtifactId).Nodup)
    { error := .valueError, message := "code artifact record ids must be unique" }
  rules.registration registration.definition
  refuseIf (registration.contract.referenceDatasetVersionId
      ≠ registration.referenceDataset.datasetVersionId)
    { error := .valueError
      message := "contract record references a different reference dataset version" }
  refuseIf (registration.contract.targetDatasetVersionId
      ≠ registration.targetDataset.datasetVersionId)
    { error := .valueError
      message := "contract record references a different target dataset version" }
  .ok registration

end MetadataRegistration

/-- `ContractVersionRecord(...)`. -/
def ContractVersionRecord.make (record : ContractVersionRecord) :
    Except Refusal ContractVersionRecord := do
  refuseIf (record.referenceDatasetVersionId = record.targetDatasetVersionId)
    { error := .valueError, message := "contract dataset version ids must differ" }
  .ok record

end ForensicData.Persistence
