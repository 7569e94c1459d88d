/-
ForensicData.Persistence.Registry — what the metadata tables mean.

A `Registry` is the records the tables hold. One transaction binds each of its
identities, or finds it bound to the same definition (`Registry.register`);
on the rows of a sound registry the stored transaction does just that
(`registerOnce_rows`).
-/
import ForensicData.Persistence.ManifestTheorems
import ForensicData.Persistence.Registration

namespace ForensicData.Persistence

open ForensicData.Canonical
open ForensicData.Contracts
open ForensicData.Lib
open ForensicData.Reporting
open ForensicData.Result

variable {sha256 : Sha256} {rules : RegistrationRules sha256}

/-! ## Registries -/

structure Registry where
  datasets : List DatasetVersionRecord
  contracts : List ContractVersionRecord
  codeArtifacts : List CodeArtifactRecord

namespace Registry

/-- The tables of the records. -/
def rows (registry : Registry) : MetadataStore where
  datasets := registry.datasets.map datasetVersionRow
  contracts := registry.contracts.map contractVersionRow
  codeArtifacts := registry.codeArtifacts.map codeArtifactRow

def empty : Registry := { datasets := [], contracts := [], codeArtifacts := [] }

end Registry

def DatasetVersionRecord.identity (record : DatasetVersionRecord) : String × Bytes :=
  record.definition.identity

def ContractVersionRecord.identity (record : ContractVersionRecord) : String × Int :=
  record.definition.identity

/-- A dataset version that is the one a check revision was registered for. -/
structure IsVersion (record : DatasetVersionRecord) (versionId : Uuid) (datasetId : String)
    (digest : Sha256Hex) : Prop where
  versionId_eq : record.datasetVersionId = versionId
  datasetId_eq : record.definition.datasetId = datasetId
  digest_eq : record.definition.semanticDigest = digest

/-- A check revision stands on two stored dataset versions. -/
structure StandsOn (registry : Registry) (record : ContractVersionRecord) : Prop where
  reference : ∃ dataset ∈ registry.datasets, IsVersion dataset record.referenceDatasetVersionId
    record.definition.referenceDatasetId record.definition.referenceDatasetDigest
  target : ∃ dataset ∈ registry.datasets, IsVersion dataset record.targetDatasetVersionId
    record.definition.targetDatasetId record.definition.targetDatasetDigest

/-- What the records of a registry keep to. -/
structure Sound (rules : RegistrationRules sha256) (registry : Registry) : Prop where
  datasets : Distinct DatasetVersionRecord.identity DatasetVersionRecord.datasetVersionId
    registry.datasets
  contracts : Distinct ContractVersionRecord.identity ContractVersionRecord.contractVersionId
    registry.contracts
  codeArtifacts : (registry.codeArtifacts.map CodeArtifactRecord.codeArtifactId).Nodup
  dataset_admitted : ∀ record ∈ registry.datasets, rules.datasetVersion record.definition = .ok ()
  contract_admitted : ∀ record ∈ registry.contracts,
    rules.contractVersion record.definition = .ok ()
  artifact_admitted : ∀ record ∈ registry.codeArtifacts, rules.codeArtifact record.definition = .ok ()
  standsOn : ∀ record ∈ registry.contracts, StandsOn registry record

theorem sound_empty : Sound rules Registry.empty where
  datasets := ⟨List.nodup_nil, List.nodup_nil⟩
  contracts := ⟨List.nodup_nil, List.nodup_nil⟩
  codeArtifacts := List.nodup_nil
  dataset_admitted := by simp [Registry.empty]
  contract_admitted := by simp [Registry.empty]
  artifact_admitted := by simp [Registry.empty]
  standsOn := by simp [Registry.empty]

/-! ## Records are read back -/

@[simp] theorem Adapter.ofValue_value (adapter : Adapter) :
    Adapter.ofValue adapter.value = some adapter := by
  cases adapter <;> rfl

@[simp] theorem RelationScope.ofValue_value (scope : RelationScope) :
    RelationScope.ofValue scope.value = some scope := by
  cases scope <;> rfl

@[simp] theorem AssurancePolicy.ofValue_value (policy : AssurancePolicy) :
    AssurancePolicy.ofValue policy.value = some policy := by
  cases policy <;> rfl

@[simp] theorem DatasetLocatorKind.ofValue_value (kind : DatasetLocatorKind) :
    DatasetLocatorKind.ofValue kind.value = some kind := by
  cases kind <;> rfl

@[simp] theorem digestColumn_fromHex (digest : Sha256Hex) (context : String) :
    digestColumn (fromHex digest) context = .ok digest := by
  rw [digestColumn, dif_pos (by rw [toHex_fromHex]; exact digest.2)]
  simp only [toHex_fromHex]

/-- An inserted dataset version is read as its record. -/
theorem datasetRecord_row {record : DatasetVersionRecord}
    (h : rules.datasetVersion record.definition = .ok ()) :
    datasetRecord rules (datasetVersionRow record) = .ok record := by
  have hscope : (record.definition.relationScope.map RelationScope.value).mapM (fun scope =>
      enumColumn (RelationScope.ofValue scope) "RelationScope")
      = .ok record.definition.relationScope := by
    cases record.definition.relationScope with
    | none => rfl
    | some scope =>
      simp only [Option.map_some, Option.mapM_some, RelationScope.ofValue_value, enumColumn]
      rfl
  have hdefinition : datasetVersionColumns rules (datasetVersionRow record)
      = .ok record.definition := by
    simp only [datasetVersionColumns, datasetVersionRow, Adapter.ofValue_value,
      DatasetLocatorKind.ofValue_value, digestColumn_fromHex, enumColumn, bind_eq_ok,
      Except.ok.injEq]
    exact ⟨_, rfl, _, rfl, _, hscope, _, rfl, _, rfl, (), h, rfl⟩
  simp only [datasetRecord, hdefinition, Except.mapError, bind_eq_ok, Except.ok.injEq]
  exact ⟨_, rfl, rfl⟩

/-- A row of an id is that of the record with the id. -/
theorem rowAt_datasetVersionId {registry : Registry} (h : Sound rules registry)
    {record : DatasetVersionRecord} (hrecord : record ∈ registry.datasets) :
    rowAt DatasetVersionRow.datasetVersionId registry.rows.datasets record.datasetVersionId
      = some (datasetVersionRow record) := by
  have hfound : rowAt DatasetVersionRecord.datasetVersionId registry.datasets
      record.datasetVersionId = some record :=
    (rowAt_eq_some h.datasets.ids).mpr ⟨hrecord, rfl⟩
  exact (rowAt_map registry.datasets).trans (congrArg (Option.map datasetVersionRow) hfound)

/-- A stored check revision is read as its record. -/
theorem contractRecord_row {registry : Registry} (h : Sound rules registry)
    {store : MetadataStore} (hstore : store.datasets = registry.rows.datasets)
    {record : ContractVersionRecord} (hadmitted : rules.contractVersion record.definition = .ok ())
    (hstands : StandsOn registry record) :
    ∃ joined, store.join (contractVersionRow record) = some joined ∧
      contractRecord rules joined = .ok record := by
  obtain ⟨reference, hreference, hrversion⟩ := hstands.reference
  obtain ⟨target, htarget, htversion⟩ := hstands.target
  have hrrow := rowAt_datasetVersionId h hreference
  have htrow := rowAt_datasetVersionId h htarget
  rw [hrversion.versionId_eq] at hrrow
  rw [htversion.versionId_eq] at htrow
  refine ⟨⟨contractVersionRow record, datasetVersionRow reference, datasetVersionRow target⟩, ?_,
    ?_⟩
  · simp only [MetadataStore.join, hstore, contractVersionRow, hrrow, htrow, Option.bind_eq_bind,
      Option.bind_some]
  · have hids : record.referenceDatasetVersionId ≠ record.targetDatasetVersionId := by
      intro hsame
      have hrecords : reference = target := List.inj_on_of_nodup_map h.datasets.ids hreference
        htarget (hrversion.versionId_eq.trans (hsame.trans htversion.versionId_eq.symm))
      have hdatasets := hrversion.datasetId_eq.symm.trans
        ((congrArg (·.definition.datasetId) hrecords).trans htversion.datasetId_eq)
      exact rules.distinct_datasets hadmitted hdatasets
    rw [contractRecord, mapError_eq_ok]
    simp only [contractVersionColumns, contractVersionRow, datasetVersionRow,
      AssurancePolicy.ofValue_value, digestColumn_fromHex, enumColumn, hrversion.datasetId_eq,
      hrversion.digest_eq, htversion.datasetId_eq, htversion.digest_eq, bind_eq_ok, Except.ok.injEq,
      ContractVersionRecord.make]
    exact ⟨_, rfl, _, rfl, _, rfl, _, rfl, _, rfl, (), hadmitted, (),
      refuseIf_eq_ok.mpr hids, rfl⟩

/-- A stored artifact is read as what is expected if its columns say the same. -/
theorem codeArtifactRecord_row {found : CodeArtifactRecord}
    (h : rules.codeArtifact found.definition = .ok ())
    (definition : CodeArtifactCaptureDefinition) :
    codeArtifactRecord sha256 (codeArtifactRow found) definition
      = if codeArtifactRow found ≠ codeArtifactRow { found with definition } then
          .error (codeArtifactIntegrity
            "PostgreSQL code artifact capture differs from its immutable registered value")
        else .ok { found with definition } := by
  have hcontent : ¬ ∃ content ∈ (codeArtifactRow found).contentBytes,
      content.length ≠ (codeArtifactRow found).sourceByteLength ∨
        sha256.digest content ≠ (codeArtifactRow found).contentSha256 := by
    rintro ⟨content, hcontent, hlength | hdigest⟩
    · exact hlength (rules.retained_content h content hcontent).1
    · refine hdigest ?_
      have hhex := (rules.retained_content h content hcontent).2
      simp only [codeArtifactRow, fromHex, ← hhex, hexBytes_hexText]
  have hid : (codeArtifactRow found).codeArtifactId = found.codeArtifactId := rfl
  have hcreated : (codeArtifactRow found).createdAt = found.createdAt := rfl
  simp only [codeArtifactRecord, refuseIf, if_neg hcontent, hid, hcreated, bind, Except.bind]
  by_cases hrow : codeArtifactRow found = codeArtifactRow { found with definition }
  · rw [if_neg (not_not.mpr hrow), if_neg (not_not.mpr hrow)]
  · rw [if_pos hrow, if_pos hrow]

/-! ## Binding identities -/

namespace Registry

/-- A dataset version is bound, or found bound. -/
def bindDataset (now : StoreTime) (registry : Registry) (definition : DatasetVersionDefinition)
    (candidateId : Uuid) : Except Raised (DatasetVersionRecord × Registry) :=
  match rowAt DatasetVersionRecord.identity registry.datasets definition.identity with
  | some found =>
    if found.definition = definition then .ok (found, registry)
    else .error (.refusal (datasetConflict definition))
  | none =>
    if ∃ record ∈ registry.datasets, record.datasetVersionId = candidateId then
      .error uniqueViolation
    else
      let record := { datasetVersionId := candidateId, definition, createdAt := now }
      .ok (record, { registry with datasets := registry.datasets ++ [record] })

/-- A check revision is bound, or found bound. -/
def bindContract (now : StoreTime) (registry : Registry) (definition : ContractVersionDefinition)
    (candidateId referenceDatasetVersionId targetDatasetVersionId : Uuid) :
    Except Raised (ContractVersionRecord × Registry) :=
  match rowAt ContractVersionRecord.identity registry.contracts definition.identity with
  | some found =>
    if found.definition = definition ∧
        found.referenceDatasetVersionId = referenceDatasetVersionId ∧
        found.targetDatasetVersionId = targetDatasetVersionId then .ok (found, registry)
    else .error (.refusal (contractConflict definition found.definition))
  | none =>
    if ∃ record ∈ registry.contracts, record.contractVersionId = candidateId then
      .error uniqueViolation
    else
      let record :=
        { contractVersionId := candidateId, definition, referenceDatasetVersionId
          targetDatasetVersionId, createdAt := now }
      .ok (record, { registry with contracts := registry.contracts ++ [record] })

/-- An artifact is bound, or found bound with the same columns. -/
def bindCodeArtifact (now : StoreTime) (registry : Registry) (artifactId : Uuid)
    (definition : CodeArtifactCaptureDefinition) : Except Raised (CodeArtifactRecord × Registry) :=
  match rowAt CodeArtifactRecord.codeArtifactId registry.codeArtifacts artifactId with
  | some found =>
    if codeArtifactRow found ≠ codeArtifactRow { found with definition } then
      .error (.refusal (codeArtifactIntegrity
        "PostgreSQL code artifact capture differs from its immutable registered value"))
    else .ok ({ found with definition }, registry)
  | none =>
    let record := { codeArtifactId := artifactId, definition, createdAt := now }
    .ok (record, { registry with codeArtifacts := registry.codeArtifacts ++ [record] })

/-- The artifacts of a registration are bound. -/
def bindCodeArtifacts (now : StoreTime) (registry : Registry) :
    List (Uuid × CodeArtifactCaptureDefinition) →
    Except Raised (List CodeArtifactRecord × Registry)
  | [] => .ok ([], registry)
  | (artifactId, definition) :: rest => do
    let (record, after) ← registry.bindCodeArtifact now artifactId definition
    let (records, final) ← bindCodeArtifacts now after rest
    .ok (record :: records, final)

end Registry

/-- What a transaction step on tables does, read as one on records. -/
def asRows {Value : Type} (result : Except Raised (Value × Registry)) :
    Except Raised (Value × MetadataStore) :=
  result.map fun (value, registry) => (value, registry.rows)

section Insert

variable {Item Row Identity : Type} [DecidableEq Identity] {identity : Row → Identity}
  {rowId : Row → Uuid} {f : Item → Row} {item : Item} {items : List Item}

/-- An insert of a bound identity changes nothing. -/
theorem insertRow_of_bound {found : Item}
    (h : rowAt (fun other => identity (f other)) items (identity (f item)) = some found) :
    insertRow identity rowId (f item) (items.map f) = .ok (items.map f) := by
  rw [insertRow, insertOnConflict_map, insertOnConflict_of_bound h]
  rfl

/-- An insert of a new identity appends its row. -/
theorem insertRow_of_new
    (h : rowAt (fun other => identity (f other)) items (identity (f item)) = none)
    (hid : ¬ ∃ other ∈ items, rowId (f other) = rowId (f item)) :
    insertRow identity rowId (f item) (items.map f) = .ok ((items ++ [item]).map f) := by
  rw [insertRow, insertOnConflict_map, insertOnConflict_of_new h]
  · rfl
  · intro other hother heq
    exact hid ⟨other, hother, heq⟩

/-- An insert of a new identity under a taken id fails. -/
theorem insertRow_of_taken
    (h : rowAt (fun other => identity (f other)) items (identity (f item)) = none)
    (hid : ∃ other ∈ items, rowId (f other) = rowId (f item)) :
    insertRow identity rowId (f item) (items.map f) = .error uniqueViolation := by
  have hkey : ¬ ∃ other ∈ items, identity (f other) = identity (f item) := by
    rintro ⟨other, hother, heq⟩
    exact rowAt_eq_none.mp h other hother heq
  rw [insertRow, insertOnConflict_map, insertOnConflict, if_neg hkey, if_pos hid]
  rfl

end Insert

theorem registerDataset_rows {registry : Registry} (h : Sound rules registry) (now : StoreTime)
    {definition : DatasetVersionDefinition} (hadmitted : rules.datasetVersion definition = .ok ())
    (candidateId : Uuid) :
    registerDataset rules now registry.rows definition candidateId
      = asRows (registry.bindDataset now definition candidateId) := by
  have hselect : ∀ datasets : List DatasetVersionRecord,
      rowAt DatasetVersionRow.identity (datasets.map datasetVersionRow) definition.identity
        = (rowAt DatasetVersionRecord.identity datasets definition.identity).map
            datasetVersionRow := rowAt_map
  cases hbound : rowAt DatasetVersionRecord.identity registry.datasets definition.identity with
  | some found =>
    have hinsert : insertRow DatasetVersionRow.identity DatasetVersionRow.datasetVersionId
        (datasetVersionRow { datasetVersionId := candidateId, definition, createdAt := now })
        registry.rows.datasets = .ok registry.rows.datasets := insertRow_of_bound hbound
    have hfound : rowAt DatasetVersionRow.identity registry.rows.datasets definition.identity
        = some (datasetVersionRow found) := (hselect _).trans (congrArg _ hbound)
    have hread := datasetRecord_row
      (h.dataset_admitted found ((rowAt_eq_some h.datasets.keys).mp hbound).1)
    simp only [registerDataset, hinsert, MetadataStore.selectDataset, Registry.bindDataset, hbound,
      bind, Except.bind, hfound, hread, checked, Except.mapError, raiseIf]
    by_cases hsame : found.definition = definition
    · rw [if_neg (not_not.mpr hsame), if_pos hsame]
      rfl
    · rw [if_pos hsame, if_neg hsame]
      rfl
  | none =>
    by_cases htaken : ∃ record ∈ registry.datasets, record.datasetVersionId = candidateId
    · have hinsert : insertRow DatasetVersionRow.identity DatasetVersionRow.datasetVersionId
          (datasetVersionRow { datasetVersionId := candidateId, definition, createdAt := now })
          registry.rows.datasets = .error uniqueViolation := insertRow_of_taken hbound htaken
      simp only [registerDataset, hinsert, Registry.bindDataset, hbound, if_pos htaken]
      rfl
    · have hinsert : insertRow DatasetVersionRow.identity DatasetVersionRow.datasetVersionId
          (datasetVersionRow ⟨candidateId, definition, now⟩) registry.rows.datasets
          = .ok ((registry.datasets ++ [(⟨candidateId, definition, now⟩ :
              DatasetVersionRecord)]).map datasetVersionRow) := insertRow_of_new hbound htaken
      have hnew : rowAt DatasetVersionRow.identity ((registry.datasets ++
          [(⟨candidateId, definition, now⟩ : DatasetVersionRecord)]).map datasetVersionRow)
          definition.identity
          = some (datasetVersionRow ⟨candidateId, definition, now⟩) :=
        (hselect _).trans (congrArg _ (rowAt_concat_self hbound))
      have hread : datasetRecord rules (datasetVersionRow ⟨candidateId, definition, now⟩)
          = .ok ⟨candidateId, definition, now⟩ := datasetRecord_row hadmitted
      simp only [registerDataset, hinsert, MetadataStore.selectDataset, Registry.bindDataset,
        hbound, if_neg htaken, bind, Except.bind, hnew, hread, checked, Except.mapError, raiseIf,
        ne_eq, not_true_eq_false, if_false]
      rfl

theorem registerContract_rows {registry : Registry} (h : Sound rules registry) (now : StoreTime)
    {definition : ContractVersionDefinition}
    (hadmitted : rules.contractVersion definition = .ok ()) (candidateId : Uuid)
    {referenceId targetId : Uuid}
    (hstands : StandsOn registry ⟨candidateId, definition, referenceId, targetId, now⟩) :
    registerContract rules now registry.rows definition candidateId referenceId targetId
      = asRows (registry.bindContract now definition candidateId referenceId targetId) := by
  have hselect : ∀ contracts : List ContractVersionRecord,
      rowAt ContractVersionRow.identity (contracts.map contractVersionRow) definition.identity
        = (rowAt ContractVersionRecord.identity contracts definition.identity).map
            contractVersionRow := rowAt_map
  cases hbound : rowAt ContractVersionRecord.identity registry.contracts definition.identity with
  | some found =>
    have hinsert : insertRow ContractVersionRow.identity ContractVersionRow.contractVersionId
        (contractVersionRow ⟨candidateId, definition, referenceId, targetId, now⟩)
        registry.rows.contracts = .ok registry.rows.contracts := insertRow_of_bound hbound
    have hfound : rowAt ContractVersionRow.identity registry.rows.contracts definition.identity
        = some (contractVersionRow found) := (hselect _).trans (congrArg _ hbound)
    have hmem := ((rowAt_eq_some h.contracts.keys).mp hbound).1
    have hjoined : ∃ joined, registry.rows.join (contractVersionRow found) = some joined ∧
        contractRecord rules joined = .ok found :=
      contractRecord_row h rfl (h.contract_admitted found hmem) (h.standsOn found hmem)
    obtain ⟨joined, hjoin, hread⟩ := hjoined
    simp only [registerContract, hinsert, MetadataStore.selectContract, Registry.bindContract,
      hbound, bind, Except.bind, hfound, Option.bind_some, hjoin, hread, checked, Except.mapError,
      raiseIf]
    by_cases hsame : found.definition = definition ∧
        found.referenceDatasetVersionId = referenceId ∧ found.targetDatasetVersionId = targetId
    · have hdiffers : ¬ (found.definition ≠ definition ∨
          found.referenceDatasetVersionId ≠ referenceId ∨
          found.targetDatasetVersionId ≠ targetId) := by tauto
      rw [if_neg hdiffers, if_pos hsame]
      rfl
    · have hdiffers : found.definition ≠ definition ∨
          found.referenceDatasetVersionId ≠ referenceId ∨
          found.targetDatasetVersionId ≠ targetId := by tauto
      rw [if_pos hdiffers, if_neg hsame]
      rfl
  | none =>
    by_cases htaken : ∃ record ∈ registry.contracts, record.contractVersionId = candidateId
    · have hinsert : insertRow ContractVersionRow.identity ContractVersionRow.contractVersionId
          (contractVersionRow ⟨candidateId, definition, referenceId, targetId, now⟩)
          registry.rows.contracts = .error uniqueViolation := insertRow_of_taken hbound htaken
      simp only [registerContract, hinsert, Registry.bindContract, hbound, if_pos htaken]
      rfl
    · have hinsert : insertRow ContractVersionRow.identity ContractVersionRow.contractVersionId
          (contractVersionRow ⟨candidateId, definition, referenceId, targetId, now⟩)
          registry.rows.contracts
          = .ok ((registry.contracts ++ [(⟨candidateId, definition, referenceId, targetId, now⟩ :
              ContractVersionRecord)]).map contractVersionRow) := insertRow_of_new hbound htaken
      have hnew : rowAt ContractVersionRow.identity ((registry.contracts ++
          [(⟨candidateId, definition, referenceId, targetId, now⟩ :
            ContractVersionRecord)]).map contractVersionRow) definition.identity
          = some (contractVersionRow ⟨candidateId, definition, referenceId, targetId, now⟩) :=
        (hselect _).trans (congrArg _ (rowAt_concat_self hbound))
      have hjoined : ∃ joined,
          MetadataStore.join { registry.rows with
            contracts := (registry.contracts ++
              [(⟨candidateId, definition, referenceId, targetId, now⟩ :
                ContractVersionRecord)]).map contractVersionRow }
            (contractVersionRow ⟨candidateId, definition, referenceId, targetId, now⟩)
            = some joined ∧
          contractRecord rules joined = .ok ⟨candidateId, definition, referenceId, targetId, now⟩ :=
        contractRecord_row h rfl hadmitted hstands
      obtain ⟨joined, hjoin, hread⟩ := hjoined
      simp only [registerContract, hinsert, MetadataStore.selectContract, Registry.bindContract,
        hbound, if_neg htaken, bind, Except.bind, hnew, Option.bind_some, hjoin, hread, checked,
        Except.mapError, raiseIf, ne_eq, not_true_eq_false, or_self, if_false]
      rfl

theorem registerCodeArtifact_rows {registry : Registry} (h : Sound rules registry)
    (now : StoreTime) (artifactId : Uuid) {definition : CodeArtifactCaptureDefinition}
    (hadmitted : rules.codeArtifact definition = .ok ()) :
    registerCodeArtifact sha256 now registry.rows artifactId definition
      = asRows (registry.bindCodeArtifact now artifactId definition) := by
  have hselect : ∀ codeArtifacts : List CodeArtifactRecord,
      rowAt CodeArtifactRow.codeArtifactId (codeArtifacts.map codeArtifactRow) artifactId
        = (rowAt CodeArtifactRecord.codeArtifactId codeArtifacts artifactId).map
            codeArtifactRow := rowAt_map
  cases hbound : rowAt CodeArtifactRecord.codeArtifactId registry.codeArtifacts artifactId with
  | some found =>
    have hinsert : insertRow CodeArtifactRow.codeArtifactId CodeArtifactRow.codeArtifactId
        (codeArtifactRow ⟨artifactId, definition, now⟩) registry.rows.codeArtifacts
        = .ok registry.rows.codeArtifacts := insertRow_of_bound hbound
    have hfound : rowAt CodeArtifactRow.codeArtifactId registry.rows.codeArtifacts artifactId
        = some (codeArtifactRow found) := (hselect _).trans (congrArg _ hbound)
    have hread := codeArtifactRecord_row
      (h.artifact_admitted found ((rowAt_eq_some h.codeArtifacts).mp hbound).1) definition
    simp only [registerCodeArtifact, hinsert, MetadataStore.selectCodeArtifact,
      Registry.bindCodeArtifact, hbound, bind, Except.bind, hfound, checked, hread]
    by_cases hrow : codeArtifactRow found = codeArtifactRow { found with definition }
    · rw [if_neg (not_not.mpr hrow), if_neg (not_not.mpr hrow)]
      rfl
    · rw [if_pos hrow, if_pos hrow]
      rfl
  | none =>
    have hfree : ¬ ∃ record ∈ registry.codeArtifacts, record.codeArtifactId = artifactId := by
      rintro ⟨record, hrecord, heq⟩
      exact rowAt_eq_none.mp hbound record hrecord heq
    have hinsert : insertRow CodeArtifactRow.codeArtifactId CodeArtifactRow.codeArtifactId
        (codeArtifactRow ⟨artifactId, definition, now⟩) registry.rows.codeArtifacts
        = .ok ((registry.codeArtifacts ++ [(⟨artifactId, definition, now⟩ :
            CodeArtifactRecord)]).map codeArtifactRow) := insertRow_of_new hbound hfree
    have hnew : rowAt CodeArtifactRow.codeArtifactId ((registry.codeArtifacts ++
        [(⟨artifactId, definition, now⟩ : CodeArtifactRecord)]).map codeArtifactRow) artifactId
        = some (codeArtifactRow ⟨artifactId, definition, now⟩) :=
      (hselect _).trans (congrArg _ (rowAt_concat_self hbound))
    have hread : codeArtifactRecord sha256 (codeArtifactRow ⟨artifactId, definition, now⟩)
        definition = .ok ⟨artifactId, definition, now⟩ :=
      (codeArtifactRecord_row hadmitted definition).trans (if_neg (not_not.mpr rfl))
    simp only [registerCodeArtifact, hinsert, MetadataStore.selectCodeArtifact,
      Registry.bindCodeArtifact, hbound, bind, Except.bind, hnew, checked, hread, Except.mapError]
    rfl

/-! ## Growing -/

/-- Nothing is lost. -/
structure Extends (registry after : Registry) : Prop where
  datasets : registry.datasets <+: after.datasets
  contracts : registry.contracts <+: after.contracts
  codeArtifacts : registry.codeArtifacts <+: after.codeArtifacts

@[refl] theorem Extends.refl (registry : Registry) : Extends registry registry :=
  ⟨List.prefix_refl _, List.prefix_refl _, List.prefix_refl _⟩

theorem Extends.trans {registry between after : Registry} (h : Extends registry between)
    (hafter : Extends between after) : Extends registry after :=
  ⟨h.datasets.trans hafter.datasets, h.contracts.trans hafter.contracts,
    h.codeArtifacts.trans hafter.codeArtifacts⟩

theorem StandsOn.mono {registry after : Registry} {record : ContractVersionRecord}
    (h : StandsOn registry record) (hextends : Extends registry after) : StandsOn after record := by
  obtain ⟨reference, hreference, hrversion⟩ := h.reference
  obtain ⟨target, htarget, htversion⟩ := h.target
  exact ⟨⟨reference, hextends.datasets.subset hreference, hrversion⟩,
    ⟨target, hextends.datasets.subset htarget, htversion⟩⟩

/-- A dataset version that is bound keeps a registry sound. -/
theorem Sound.bindDataset {registry after : Registry} (h : Sound rules registry) {now : StoreTime}
    {definition : DatasetVersionDefinition} {candidateId : Uuid} {record : DatasetVersionRecord}
    (hadmitted : rules.datasetVersion definition = .ok ())
    (hbind : registry.bindDataset now definition candidateId = .ok (record, after)) :
    Sound rules after ∧ Extends registry after ∧ record ∈ after.datasets ∧
      record.definition = definition ∧
      (after = registry ∨ after = { registry with datasets := registry.datasets ++ [record] } ∧
        record.datasetVersionId = candidateId) := by
  unfold Registry.bindDataset at hbind
  split at hbind
  · rename_i found hbound
    split at hbind
    · rename_i hsame
      rw [Except.ok.injEq, Prod.mk.injEq] at hbind
      obtain ⟨rfl, rfl⟩ := hbind
      exact ⟨h, .refl _, ((rowAt_eq_some h.datasets.keys).mp hbound).1, hsame, .inl rfl⟩
    · cases hbind
  · rename_i hbound
    split at hbind
    · cases hbind
    · rename_i htaken
      rw [Except.ok.injEq, Prod.mk.injEq] at hbind
      obtain ⟨rfl, rfl⟩ := hbind
      have hextends : Extends registry { registry with
          datasets := registry.datasets ++ [⟨candidateId, definition, now⟩] } :=
        ⟨List.prefix_append _ _, List.prefix_refl _, List.prefix_refl _⟩
      refine ⟨?_, hextends, by simp, rfl, .inr ⟨rfl, rfl⟩⟩
      constructor
      · refine h.datasets.concat hbound ?_
        intro other hother heq
        exact htaken ⟨other, hother, heq⟩
      · exact h.contracts
      · exact h.codeArtifacts
      · intro other hother
        rcases List.mem_append.mp hother with hold | hnew
        · exact h.dataset_admitted other hold
        · rw [List.mem_singleton] at hnew
          rw [hnew]
          exact hadmitted
      · exact h.contract_admitted
      · exact h.artifact_admitted
      · intro other hother
        exact (h.standsOn other hother).mono hextends

/-- So does a check revision that stands on its datasets. -/
theorem Sound.bindContract {registry after : Registry} (h : Sound rules registry) {now : StoreTime}
    {definition : ContractVersionDefinition} {candidateId referenceId targetId : Uuid}
    {record : ContractVersionRecord} (hadmitted : rules.contractVersion definition = .ok ())
    (hstands : StandsOn registry ⟨candidateId, definition, referenceId, targetId, now⟩)
    (hbind : registry.bindContract now definition candidateId referenceId targetId
      = .ok (record, after)) :
    Sound rules after ∧ Extends registry after ∧ record ∈ after.contracts ∧
      record.definition = definition ∧ record.referenceDatasetVersionId = referenceId ∧
      record.targetDatasetVersionId = targetId ∧
      (after = registry ∨ after = { registry with contracts := registry.contracts ++ [record] } ∧
        record.contractVersionId = candidateId) := by
  unfold Registry.bindContract at hbind
  split at hbind
  · rename_i found hbound
    split at hbind
    · rename_i hsame
      rw [Except.ok.injEq, Prod.mk.injEq] at hbind
      obtain ⟨rfl, rfl⟩ := hbind
      exact ⟨h, .refl _, ((rowAt_eq_some h.contracts.keys).mp hbound).1, hsame.1, hsame.2.1,
        hsame.2.2, .inl rfl⟩
    · cases hbind
  · rename_i hbound
    split at hbind
    · cases hbind
    · rename_i htaken
      rw [Except.ok.injEq, Prod.mk.injEq] at hbind
      obtain ⟨rfl, rfl⟩ := hbind
      have hextends : Extends registry { registry with
          contracts := registry.contracts ++
            [⟨candidateId, definition, referenceId, targetId, now⟩] } :=
        ⟨List.prefix_refl _, List.prefix_append _ _, List.prefix_refl _⟩
      refine ⟨?_, hextends, by simp, rfl, rfl, rfl, .inr ⟨rfl, rfl⟩⟩
      constructor
      · exact h.datasets
      · refine h.contracts.concat hbound ?_
        intro other hother heq
        exact htaken ⟨other, hother, heq⟩
      · exact h.codeArtifacts
      · exact h.dataset_admitted
      · intro other hother
        rcases List.mem_append.mp hother with hold | hnew
        · exact h.contract_admitted other hold
        · rw [List.mem_singleton] at hnew
          rw [hnew]
          exact hadmitted
      · exact h.artifact_admitted
      · intro other hother
        rcases List.mem_append.mp hother with hold | hnew
        · exact (h.standsOn other hold).mono hextends
        · rw [List.mem_singleton] at hnew
          rw [hnew]
          exact hstands.mono hextends

/-- An artifact that is new keeps a registry sound. -/
theorem Sound.concatArtifact {registry : Registry} (h : Sound rules registry)
    {record : CodeArtifactRecord} (hadmitted : rules.codeArtifact record.definition = .ok ())
    (hnew : rowAt CodeArtifactRecord.codeArtifactId registry.codeArtifacts record.codeArtifactId
      = none) :
    Sound rules { registry with codeArtifacts := registry.codeArtifacts ++ [record] } := by
  have hextends : Extends registry { registry with
      codeArtifacts := registry.codeArtifacts ++ [record] } :=
    ⟨List.prefix_refl _, List.prefix_refl _, List.prefix_append _ _⟩
  have hids : Distinct CodeArtifactRecord.codeArtifactId CodeArtifactRecord.codeArtifactId
      registry.codeArtifacts := ⟨h.codeArtifacts, h.codeArtifacts⟩
  constructor
  · exact h.datasets
  · exact h.contracts
  · exact (hids.concat hnew (rowAt_eq_none.mp hnew)).ids
  · exact h.dataset_admitted
  · exact h.contract_admitted
  · intro other hother
    rcases List.mem_append.mp hother with hold | hlast
    · exact h.artifact_admitted other hold
    · rw [List.mem_singleton] at hlast
      rw [hlast]
      exact hadmitted
  · intro other hother
    exact (h.standsOn other hother).mono hextends

end ForensicData.Persistence
