/-
ForensicData.Persistence.RegistrationTheorems — one registration transaction.

`registerOnce_rows`: on the tables of a sound registry the transaction is
`Registry.register`. A call whose candidate ids are its own either finds one
of its identities bound to another definition, and reports that, or binds all
of them and leaves a sound registry (`register_cases`).
-/
import ForensicData.Persistence.Registry

namespace ForensicData.Persistence

open ForensicData.Canonical
open ForensicData.Contracts
open ForensicData.Lib
open ForensicData.Reporting
open ForensicData.Result

variable {sha256 : Sha256} {rules : RegistrationRules sha256}

/-! ## Artifacts -/

theorem Sound.bindCodeArtifact {registry after : Registry} (h : Sound rules registry)
    {now : StoreTime} {artifactId : Uuid} {definition : CodeArtifactCaptureDefinition}
    {record : CodeArtifactRecord} (hadmitted : rules.codeArtifact definition = .ok ())
    (hbind : registry.bindCodeArtifact now artifactId definition = .ok (record, after)) :
    Sound rules after := by
  unfold Registry.bindCodeArtifact at hbind
  split at hbind
  · split at hbind
    · cases hbind
    · rw [Except.ok.injEq, Prod.mk.injEq] at hbind
      obtain ⟨-, rfl⟩ := hbind
      exact h
  · rename_i hbound
    rw [Except.ok.injEq, Prod.mk.injEq] at hbind
    obtain ⟨rfl, rfl⟩ := hbind
    exact h.concatArtifact hadmitted hbound

theorem registerCodeArtifacts_rows {registry : Registry} (h : Sound rules registry)
    (now : StoreTime) {artifacts : List (Uuid × CodeArtifactCaptureDefinition)}
    (hadmitted : ∀ artifact ∈ artifacts, rules.codeArtifact artifact.2 = .ok ()) :
    registerCodeArtifacts sha256 now registry.rows artifacts
      = asRows (registry.bindCodeArtifacts now artifacts) := by
  induction artifacts generalizing registry with
  | nil => rfl
  | cons artifact artifacts ih =>
    obtain ⟨artifactId, definition⟩ := artifact
    rw [List.forall_mem_cons] at hadmitted
    have hfirst := registerCodeArtifact_rows h now artifactId hadmitted.1
    rw [registerCodeArtifacts, Registry.bindCodeArtifacts, hfirst]
    cases hbind : registry.bindCodeArtifact now artifactId definition with
    | error raised => rfl
    | ok bound =>
      obtain ⟨record, after⟩ := bound
      have hrest := ih (h.bindCodeArtifact hadmitted.1 hbind) hadmitted.2
      simp only [asRows, Except.map, bind, Except.bind]
      rw [hrest]
      cases after.bindCodeArtifacts now artifacts with
      | error raised => rfl
      | ok bound => rfl

/-- The artifacts that are new to a registry, as they are stored. -/
def newArtifacts (registry : Registry) (now : StoreTime)
    (artifacts : List (Uuid × CodeArtifactCaptureDefinition)) : List CodeArtifactRecord :=
  (artifacts.filter fun artifact =>
    (rowAt CodeArtifactRecord.codeArtifactId registry.codeArtifacts artifact.1).isNone).map
      fun artifact => ⟨artifact.1, artifact.2, now⟩

/-- What a bound list of artifacts is. -/
structure BindsArtifacts (registry : Registry) (now : StoreTime)
    (artifacts : List (Uuid × CodeArtifactCaptureDefinition)) (records : List CodeArtifactRecord)
    (after : Registry) : Prop where
  after_eq : after = { registry with
    codeArtifacts := registry.codeArtifacts ++ newArtifacts registry now artifacts }
  records_eq : records.map (fun record => (record.codeArtifactId, record.definition)) = artifacts
  stored : ∀ record ∈ records, record ∈ after.codeArtifacts

/-- Artifacts under ids of their own are bound: those that are new are stored. -/
theorem bindCodeArtifacts_eq {registry : Registry} (h : Sound rules registry) (now : StoreTime)
    {artifacts : List (Uuid × CodeArtifactCaptureDefinition)}
    (hadmitted : ∀ artifact ∈ artifacts, rules.codeArtifact artifact.2 = .ok ())
    (hids : (artifacts.map Prod.fst).Nodup)
    (hown : ∀ record ∈ registry.codeArtifacts, ∀ artifact ∈ artifacts,
      record.codeArtifactId = artifact.1 → record.definition = artifact.2) :
    ∃ records after, registry.bindCodeArtifacts now artifacts = .ok (records, after) ∧
      Sound rules after ∧ BindsArtifacts registry now artifacts records after := by
  induction artifacts generalizing registry with
  | nil =>
    refine ⟨[], registry, rfl, h, ?_, rfl, by simp⟩
    simp [newArtifacts]
  | cons artifact artifacts ih =>
    obtain ⟨artifactId, definition⟩ := artifact
    rw [List.forall_mem_cons] at hadmitted
    rw [List.map_cons, List.nodup_cons] at hids
    have hothers : ∀ other ∈ artifacts, other.1 ≠ artifactId := by
      intro other hother heq
      exact hids.1 (List.mem_map.mpr ⟨other, hother, heq⟩)
    cases hbound : rowAt CodeArtifactRecord.codeArtifactId registry.codeArtifacts artifactId with
    | some found =>
      obtain ⟨hfound, hid⟩ := (rowAt_eq_some h.codeArtifacts).mp hbound
      have hdefinition : found.definition = definition :=
        hown found hfound (artifactId, definition) List.mem_cons_self hid
      have hbind : registry.bindCodeArtifact now artifactId definition = .ok (found, registry) := by
        rw [Registry.bindCodeArtifact, hbound, ← hdefinition]
        exact if_neg (not_not.mpr rfl)
      obtain ⟨records, after, hrest, hsound, hbinds⟩ := ih h hadmitted.2 hids.2
        fun record hrecord other hother => hown record hrecord other (List.mem_cons_of_mem _ hother)
      refine ⟨found :: records, after, ?_, hsound, ?_, ?_, ?_⟩
      · rw [Registry.bindCodeArtifacts, hbind]
        simp only [bind, Except.bind, hrest]
      · rw [hbinds.after_eq]
        simp [newArtifacts, hbound]
      · rw [List.map_cons, hbinds.records_eq, hid, hdefinition]
      · intro record hrecord
        rcases List.mem_cons.mp hrecord with rfl | hrecord
        · rw [hbinds.after_eq]
          exact List.mem_append_left _ hfound
        · exact hbinds.stored record hrecord
    | none =>
      have hbind : registry.bindCodeArtifact now artifactId definition
          = .ok (⟨artifactId, definition, now⟩, { registry with
              codeArtifacts := registry.codeArtifacts ++ [⟨artifactId, definition, now⟩] }) := by
        rw [Registry.bindCodeArtifact, hbound]
      have hnext := h.bindCodeArtifact hadmitted.1 hbind
      obtain ⟨records, after, hrest, hsound, hbinds⟩ := ih hnext hadmitted.2 hids.2 (by
        intro record hrecord other hother hid
        rcases List.mem_append.mp hrecord with hold | hlast
        · exact hown record hold other (List.mem_cons_of_mem _ hother) hid
        · rw [List.mem_singleton] at hlast
          rw [hlast] at hid
          exact absurd hid.symm (hothers other hother))
      have hfilter : newArtifacts { registry with
          codeArtifacts := registry.codeArtifacts ++ [⟨artifactId, definition, now⟩] } now artifacts
          = newArtifacts registry now artifacts := by
        rw [newArtifacts, newArtifacts]
        congr 1
        refine List.filter_congr fun other hother => ?_
        have hlast : artifactId ≠ other.1 := (hothers other hother).symm
        simp [rowAt, List.find?_append, hlast]
      have hnew : newArtifacts registry now ((artifactId, definition) :: artifacts)
          = ⟨artifactId, definition, now⟩ :: newArtifacts registry now artifacts := by
        simp [newArtifacts, hbound]
      have hafter := hbinds.after_eq
      rw [hfilter, List.append_assoc, List.singleton_append, ← hnew] at hafter
      refine ⟨⟨artifactId, definition, now⟩ :: records, after, ?_, hsound, hafter, ?_, ?_⟩
      · rw [Registry.bindCodeArtifacts, hbind]
        simp only [bind, Except.bind, hrest]
      · rw [List.map_cons, hbinds.records_eq]
      · intro record hrecord
        rcases List.mem_cons.mp hrecord with rfl | hrecord
        · rw [hafter, hnew]
          simp
        · exact hbinds.stored record hrecord

/-! ## The transaction on records -/

/-- The transaction of a call. -/
def Registry.register (registry : Registry) (call : RegistrationCall rules) (now : StoreTime) :
    Except Raised (MetadataRegistration × Registry) := do
  let (reference, registry) ← registry.bindDataset now call.definition.referenceDataset
    call.referenceId
  let (target, registry) ← registry.bindDataset now call.definition.targetDataset call.targetId
  let (contract, registry) ← registry.bindContract now call.definition.contract call.contractId
    reference.datasetVersionId target.datasetVersionId
  let (codeArtifacts, registry) ← registry.bindCodeArtifacts now call.artifacts
  let registration ← checked (MetadataRegistration.make rules
    { referenceDataset := reference, targetDataset := target, contract, codeArtifacts })
  .ok (registration, registry)

variable {registry after : Registry} {call : RegistrationCall rules}

theorem RegistrationCall.artifacts_admitted (call : RegistrationCall rules) :
    ∀ artifact ∈ call.artifacts, rules.codeArtifact artifact.2 = .ok () := by
  intro artifact hartifact
  exact call.admitted.codeArtifacts artifact.2 (List.of_mem_zip hartifact).2

/-- A contract stands on the dataset versions of its call. -/
theorem standsOn_of_bound (call : RegistrationCall rules)
    {reference target : DatasetVersionRecord} (now : StoreTime)
    (hreference : reference ∈ registry.datasets)
    (hrdefinition : reference.definition = call.definition.referenceDataset)
    (htarget : target ∈ registry.datasets)
    (htdefinition : target.definition = call.definition.targetDataset) :
    StandsOn registry ⟨call.contractId, call.definition.contract, reference.datasetVersionId,
      target.datasetVersionId, now⟩ := by
  have hcloses := rules.closes call.admitted.registration
  constructor
  · refine ⟨reference, hreference, rfl, ?_, ?_⟩
    · rw [hrdefinition]
      exact hcloses.reference_id.symm
    · rw [hrdefinition]
      exact hcloses.reference_digest.symm
  · refine ⟨target, htarget, rfl, ?_, ?_⟩
    · rw [htdefinition]
      exact hcloses.target_id.symm
    · rw [htdefinition]
      exact hcloses.target_digest.symm

/-- On the tables of a sound registry, the stored transaction is the one on its
records. -/
theorem registerOnce_rows (h : Sound rules registry) (call : RegistrationCall rules)
    (now : StoreTime) :
    registerOnce call now registry.rows = asRows (registry.register call now) := by
  have hreference := registerDataset_rows h now call.admitted.referenceDataset call.referenceId
  rw [registerOnce, Registry.register, hreference]
  cases hrbind : registry.bindDataset now call.definition.referenceDataset call.referenceId with
  | error raised => rfl
  | ok bound =>
    obtain ⟨reference, registry₁⟩ := bound
    obtain ⟨hsound₁, -, hrmem, hrdefinition, -⟩ := h.bindDataset call.admitted.referenceDataset
      hrbind
    have htarget := registerDataset_rows hsound₁ now call.admitted.targetDataset call.targetId
    simp only [asRows, Except.map, bind, Except.bind]
    rw [htarget]
    cases htbind : registry₁.bindDataset now call.definition.targetDataset call.targetId with
    | error raised => rfl
    | ok bound =>
      obtain ⟨target, registry₂⟩ := bound
      obtain ⟨hsound₂, hextends, htmem, htdefinition, -⟩ := hsound₁.bindDataset
        call.admitted.targetDataset htbind
      have hstands := standsOn_of_bound call now (hextends.datasets.subset hrmem)
        hrdefinition htmem htdefinition
      have hcontract := registerContract_rows hsound₂ now call.admitted.contract call.contractId
        hstands
      simp only [asRows, Except.map]
      rw [hcontract]
      cases hcbind : registry₂.bindContract now call.definition.contract call.contractId
        reference.datasetVersionId target.datasetVersionId with
      | error raised => rfl
      | ok bound =>
        obtain ⟨contract, registry₃⟩ := bound
        obtain ⟨hsound₃, -⟩ := hsound₂.bindContract call.admitted.contract hstands hcbind
        have hartifacts := registerCodeArtifacts_rows hsound₃ now call.artifacts_admitted
        simp only [asRows, Except.map]
        rw [hartifacts]
        cases registry₃.bindCodeArtifacts now call.artifacts with
        | error raised => rfl
        | ok bound =>
          obtain ⟨codeArtifacts, registry₄⟩ := bound
          simp only [asRows, Except.map]
          cases MetadataRegistration.make rules
            { referenceDataset := reference, targetDataset := target, contract, codeArtifacts } with
          | error refusal => rfl
          | ok registration => rfl

/-! ## Conflicts -/

namespace Registry

/-- The identity of a dataset version is bound to another definition. -/
def DatasetConflict (registry : Registry) (definition : DatasetVersionDefinition) : Prop :=
  ∃ found ∈ registry.datasets, found.identity = definition.identity ∧ found.definition ≠ definition

/-- A check revision is bound to another definition. -/
def ContractConflict (registry : Registry) (definition : ContractVersionDefinition) : Prop :=
  ∃ found ∈ registry.contracts, found.identity = definition.identity ∧ found.definition ≠ definition

/-- One of the identities of a registration is bound to another definition. -/
def Conflicts (registry : Registry) (definition : MetadataRegistrationDefinition) : Prop :=
  registry.DatasetConflict definition.referenceDataset ∨
    registry.DatasetConflict definition.targetDataset ∨
    registry.ContractConflict definition.contract

end Registry

/-- The candidate ids of a call are not those of other records. -/
structure OwnIds (registry : Registry) (call : RegistrationCall rules) : Prop where
  apart : call.referenceId ≠ call.targetId
  artifactIds_nodup : call.artifactIds.Nodup
  reference : ∀ record ∈ registry.datasets, record.datasetVersionId = call.referenceId →
    record.definition = call.definition.referenceDataset
  target : ∀ record ∈ registry.datasets, record.datasetVersionId = call.targetId →
    record.definition = call.definition.targetDataset
  contract : ∀ record ∈ registry.contracts, record.contractVersionId = call.contractId →
    record.definition = call.definition.contract
  codeArtifacts : ∀ record ∈ registry.codeArtifacts, ∀ artifact ∈ call.artifacts,
    record.codeArtifactId = artifact.1 → record.definition = artifact.2

/-- A dataset version is bound unless it conflicts. -/
theorem bindDataset_cases (h : Sound rules registry) (now : StoreTime)
    {definition : DatasetVersionDefinition} {candidateId : Uuid}
    (hown : ∀ record ∈ registry.datasets, record.datasetVersionId = candidateId →
      record.definition = definition) :
    (registry.DatasetConflict definition ∧ registry.bindDataset now definition candidateId
        = .error (.refusal (datasetConflict definition))) ∨
      ¬ registry.DatasetConflict definition ∧ ∃ record after,
        registry.bindDataset now definition candidateId = .ok (record, after) := by
  cases hbound : rowAt DatasetVersionRecord.identity registry.datasets definition.identity with
  | some found =>
    obtain ⟨hfound, hidentity⟩ := (rowAt_eq_some h.datasets.keys).mp hbound
    by_cases hsame : found.definition = definition
    · right
      refine ⟨?_, found, registry, ?_⟩
      · rintro ⟨other, hother, heq, hdiffers⟩
        have hrecord := List.inj_on_of_nodup_map h.datasets.keys hother hfound
          (heq.trans hidentity.symm)
        rw [hrecord] at hdiffers
        exact hdiffers hsame
      · simp only [Registry.bindDataset, hbound, if_pos hsame]
    · left
      refine ⟨⟨found, hfound, hidentity, hsame⟩, ?_⟩
      simp only [Registry.bindDataset, hbound, if_neg hsame]
  | none =>
    have hfree := rowAt_eq_none.mp hbound
    have hnew : ¬ ∃ record ∈ registry.datasets, record.datasetVersionId = candidateId := by
      rintro ⟨record, hrecord, hid⟩
      exact hfree record hrecord (congrArg _ (hown record hrecord hid))
    right
    refine ⟨?_, ⟨candidateId, definition, now⟩,
      { registry with datasets := registry.datasets ++ [⟨candidateId, definition, now⟩] }, ?_⟩
    · rintro ⟨other, hother, heq, -⟩
      exact hfree other hother heq
    · simp only [Registry.bindDataset, hbound, if_neg hnew]

/-- A check revision is bound unless it conflicts. -/
theorem bindContract_cases (h : Sound rules registry) (now : StoreTime)
    {definition : ContractVersionDefinition} {candidateId referenceId targetId : Uuid}
    (hown : ∀ record ∈ registry.contracts, record.contractVersionId = candidateId →
      record.definition = definition)
    (hversions : ∀ record ∈ registry.contracts, record.definition = definition →
      record.referenceDatasetVersionId = referenceId ∧ record.targetDatasetVersionId = targetId) :
    (registry.ContractConflict definition ∧ ∃ stored,
        registry.bindContract now definition candidateId referenceId targetId
          = .error (.refusal (contractConflict definition stored))) ∨
      ¬ registry.ContractConflict definition ∧ ∃ record after,
        registry.bindContract now definition candidateId referenceId targetId
          = .ok (record, after) := by
  cases hbound : rowAt ContractVersionRecord.identity registry.contracts definition.identity with
  | some found =>
    obtain ⟨hfound, hidentity⟩ := (rowAt_eq_some h.contracts.keys).mp hbound
    by_cases hsame : found.definition = definition
    · right
      refine ⟨?_, found, registry, ?_⟩
      · rintro ⟨other, hother, heq, hdiffers⟩
        have hrecord := List.inj_on_of_nodup_map h.contracts.keys hother hfound
          (heq.trans hidentity.symm)
        rw [hrecord] at hdiffers
        exact hdiffers hsame
      · simp only [Registry.bindContract, hbound, if_pos
          (And.intro hsame (hversions found hfound hsame))]
    · left
      refine ⟨⟨found, hfound, hidentity, hsame⟩, found.definition, ?_⟩
      simp only [Registry.bindContract, hbound, if_neg (fun hall => hsame (And.left hall))]
  | none =>
    have hfree := rowAt_eq_none.mp hbound
    have hnew : ¬ ∃ record ∈ registry.contracts, record.contractVersionId = candidateId := by
      rintro ⟨record, hrecord, hid⟩
      exact hfree record hrecord (congrArg _ (hown record hrecord hid))
    right
    refine ⟨?_, ⟨candidateId, definition, referenceId, targetId, now⟩,
      { registry with
        contracts := registry.contracts ++ [⟨candidateId, definition, referenceId, targetId, now⟩] },
      ?_⟩
    · rintro ⟨other, hother, heq, -⟩
      exact hfree other hother heq
    · simp only [Registry.bindContract, hbound, if_neg hnew]

/-! ## What a transaction leaves -/

/-- A registration that took effect. -/
structure Registered (registry : Registry) (call : RegistrationCall rules) (now : StoreTime)
    (registration : MetadataRegistration) (after : Registry) : Prop where
  sound : Sound rules after
  grows : Extends registry after
  reference_mem : registration.referenceDataset ∈ after.datasets
  reference_eq : registration.referenceDataset.definition = call.definition.referenceDataset
  target_mem : registration.targetDataset ∈ after.datasets
  target_eq : registration.targetDataset.definition = call.definition.targetDataset
  contract_mem : registration.contract ∈ after.contracts
  contract_eq : registration.contract.definition = call.definition.contract
  versions_eq : registration.contract.referenceDatasetVersionId
      = registration.referenceDataset.datasetVersionId ∧
    registration.contract.targetDatasetVersionId = registration.targetDataset.datasetVersionId
  artifacts_eq : registration.codeArtifacts.map
    (fun record => (record.codeArtifactId, record.definition)) = call.artifacts
  artifacts_mem : ∀ record ∈ registration.codeArtifacts, record ∈ after.codeArtifacts
  dataset_source : ∀ record ∈ after.datasets, record ∈ registry.datasets ∨
    record.datasetVersionId = call.referenceId ∧
      record.definition = call.definition.referenceDataset ∨
    record.datasetVersionId = call.targetId ∧ record.definition = call.definition.targetDataset
  contract_source : ∀ record ∈ after.contracts, record ∈ registry.contracts ∨
    record.contractVersionId = call.contractId ∧ record.definition = call.definition.contract
  artifact_source : after.codeArtifacts
    = registry.codeArtifacts ++ newArtifacts registry now call.artifacts

theorem RegistrationCall.map_fst_artifacts (call : RegistrationCall rules) :
    call.artifacts.map Prod.fst = call.artifactIds :=
  List.map_fst_zip (Nat.le_of_eq call.drawn)

theorem RegistrationCall.map_snd_artifacts (call : RegistrationCall rules) :
    call.artifacts.map Prod.snd = call.definition.codeArtifacts :=
  List.map_snd_zip (Nat.le_of_eq call.drawn.symm)

/-- A registered set of records is a registration. -/
theorem make_registration_eq (call : RegistrationCall rules) (registration : MetadataRegistration)
    (hids : call.artifactIds.Nodup)
    (hreference : registration.referenceDataset.definition = call.definition.referenceDataset)
    (htarget : registration.targetDataset.definition = call.definition.targetDataset)
    (hcontract : registration.contract.definition = call.definition.contract)
    (hversions : registration.contract.referenceDatasetVersionId
        = registration.referenceDataset.datasetVersionId ∧
      registration.contract.targetDatasetVersionId = registration.targetDataset.datasetVersionId)
    (hartifacts : registration.codeArtifacts.map
      (fun record => (record.codeArtifactId, record.definition)) = call.artifacts) :
    MetadataRegistration.make rules registration = .ok registration := by
  have hdefinitions : registration.codeArtifacts.map CodeArtifactRecord.definition
      = call.definition.codeArtifacts := by
    rw [← call.map_snd_artifacts, ← hartifacts, List.map_map]
    rfl
  have hartifactIds : registration.codeArtifacts.map CodeArtifactRecord.codeArtifactId
      = call.artifactIds := by
    rw [← call.map_fst_artifacts, ← hartifacts, List.map_map]
    rfl
  have hdefinition : registration.definition = call.definition := by
    simp only [MetadataRegistration.definition, hreference, htarget, hcontract, hdefinitions]
  rw [MetadataRegistration.make, bind_unit_eq_ok, bind_unit_eq_ok, bind_unit_eq_ok,
    bind_unit_eq_ok, hdefinition, hartifactIds]
  exact ⟨refuseIf_eq_ok.mpr (not_not.mpr hids), call.admitted.registration,
    refuseIf_eq_ok.mpr (not_not.mpr hversions.1), refuseIf_eq_ok.mpr (not_not.mpr hversions.2), rfl⟩

/-- After the reference, the target conflicts just as before: the two datasets of a
contract are not the same. -/
theorem datasetConflict_target_iff (call : RegistrationCall rules) {reference : DatasetVersionRecord}
    (hdefinition : reference.definition = call.definition.referenceDataset)
    (hafter : after = registry ∨
      after = { registry with datasets := registry.datasets ++ [reference] }) :
    after.DatasetConflict call.definition.targetDataset ↔
      registry.DatasetConflict call.definition.targetDataset := by
  rcases hafter with rfl | rfl
  · exact Iff.rfl
  · constructor
    · rintro ⟨found, hfound, hidentity, hdiffers⟩
      rcases List.mem_append.mp hfound with hold | hlast
      · exact ⟨found, hold, hidentity, hdiffers⟩
      · rw [List.mem_singleton] at hlast
        have hdatasets : reference.definition.datasetId
            = call.definition.targetDataset.datasetId := by
          rw [← hlast]
          exact congrArg Prod.fst hidentity
        have hcloses := rules.closes call.admitted.registration
        rw [hdefinition, ← hcloses.reference_id, ← hcloses.target_id] at hdatasets
        exact absurd hdatasets (rules.distinct_datasets call.admitted.contract)
    · rintro ⟨found, hfound, hidentity, hdiffers⟩
      exact ⟨found, List.mem_append_left _ hfound, hidentity, hdiffers⟩

/-- Two records of one version are the same record. -/
theorem IsVersion.eq_of_sound (h : Sound rules registry) {record bound : DatasetVersionRecord}
    {versionId : Uuid} {datasetId : String} {digest : Sha256Hex}
    (hversion : IsVersion record versionId datasetId digest) (hrecord : record ∈ registry.datasets)
    (hbound : bound ∈ registry.datasets) (hdatasetId : bound.definition.datasetId = datasetId)
    (hdigest : bound.definition.semanticDigest = digest) : bound.datasetVersionId = versionId := by
  have hidentity : bound.identity = record.identity := by
    simp only [DatasetVersionRecord.identity, DatasetVersionDefinition.identity, hdatasetId, hdigest,
      hversion.datasetId_eq, hversion.digest_eq]
  rw [List.inj_on_of_nodup_map h.datasets.keys hbound hrecord hidentity, hversion.versionId_eq]

/-- Where the dataset versions come from once two of them are bound. -/
theorem mem_of_two_binds {after final : Registry} {reference target record : DatasetVersionRecord}
    (hrsource : after = registry ∨
      after = { registry with datasets := registry.datasets ++ [reference] } ∧
        reference.datasetVersionId = call.referenceId)
    (hrdefinition : reference.definition = call.definition.referenceDataset)
    (htsource : final = after ∨
      final = { after with datasets := after.datasets ++ [target] } ∧
        target.datasetVersionId = call.targetId)
    (htdefinition : target.definition = call.definition.targetDataset)
    (hrecord : record ∈ final.datasets) :
    record ∈ registry.datasets ∨
      record.datasetVersionId = call.referenceId ∧
        record.definition = call.definition.referenceDataset ∨
      record.datasetVersionId = call.targetId ∧
        record.definition = call.definition.targetDataset := by
  have hafter : record ∈ after.datasets ∨ record.datasetVersionId = call.targetId ∧
      record.definition = call.definition.targetDataset := by
    rcases htsource with rfl | ⟨rfl, htid⟩
    · exact .inl hrecord
    · rcases List.mem_append.mp hrecord with hold | hlast
      · exact .inl hold
      · rw [List.mem_singleton] at hlast
        rw [hlast]
        exact .inr ⟨htid, htdefinition⟩
  rcases hafter with hafter | htarget
  · rcases hrsource with rfl | ⟨rfl, hrid⟩
    · exact .inl hafter
    · rcases List.mem_append.mp hafter with hold | hlast
      · exact .inl hold
      · rw [List.mem_singleton] at hlast
        rw [hlast]
        exact .inr (.inl ⟨hrid, hrdefinition⟩)
  · exact .inr (.inr htarget)

/-- **A transaction reports a conflict, or takes effect.** -/
theorem register_cases (h : Sound rules registry) (hown : OwnIds registry call)
    (now : StoreTime) :
    (registry.Conflicts call.definition ∧ ∃ refusal,
        registry.register call now = .error (.refusal refusal) ∧ IsConflict refusal) ∨
      ¬ registry.Conflicts call.definition ∧ ∃ registration after,
        registry.register call now = .ok (registration, after) ∧
        Registered registry call now registration after := by
  have hcloses := rules.closes call.admitted.registration
  rcases bindDataset_cases h now hown.reference with ⟨hconflict, hrbind⟩ |
    ⟨hrfree, reference, registry₁, hrbind⟩
  · left
    refine ⟨.inl hconflict, datasetConflict call.definition.referenceDataset, ?_, .inl rfl⟩
    rw [Registry.register, hrbind]
    rfl
  obtain ⟨hsound₁, hgrows₁, hrmem, hrdefinition, hrsource⟩ :=
    h.bindDataset call.admitted.referenceDataset hrbind
  have hown₁ : ∀ record ∈ registry₁.datasets, record.datasetVersionId = call.targetId →
      record.definition = call.definition.targetDataset := by
    intro record hrecord hid
    rcases hrsource with rfl | ⟨rfl, hrid⟩
    · exact hown.target record hrecord hid
    · rcases List.mem_append.mp hrecord with hold | hlast
      · exact hown.target record hold hid
      · rw [List.mem_singleton] at hlast
        rw [hlast, hrid] at hid
        exact absurd hid hown.apart
  have htiff := datasetConflict_target_iff call hrdefinition
    (hrsource.imp_right And.left)
  rcases bindDataset_cases hsound₁ now hown₁ with ⟨hconflict, htbind⟩ |
    ⟨htfree, target, registry₂, htbind⟩
  · left
    refine ⟨.inr (.inl (htiff.mp hconflict)), datasetConflict call.definition.targetDataset, ?_,
      .inl rfl⟩
    rw [Registry.register, hrbind]
    simp only [bind, Except.bind, htbind]
  obtain ⟨hsound₂, hgrows₂, htmem, htdefinition, htsource⟩ :=
    hsound₁.bindDataset call.admitted.targetDataset htbind
  have hrmem₂ : reference ∈ registry₂.datasets := hgrows₂.datasets.subset hrmem
  have hcontracts : registry₂.contracts = registry.contracts := by
    rcases hrsource with rfl | ⟨rfl, -⟩ <;> rcases htsource with rfl | ⟨rfl, -⟩ <;> rfl
  have hartifacts : registry₂.codeArtifacts = registry.codeArtifacts := by
    rcases hrsource with rfl | ⟨rfl, -⟩ <;> rcases htsource with rfl | ⟨rfl, -⟩ <;> rfl
  have hstands := standsOn_of_bound call now hrmem₂ hrdefinition htmem htdefinition
  have hversions : ∀ record ∈ registry₂.contracts, record.definition = call.definition.contract →
      record.referenceDatasetVersionId = reference.datasetVersionId ∧
        record.targetDatasetVersionId = target.datasetVersionId := by
    intro record hrecord hdefinition
    obtain ⟨rdataset, hrdataset, hrversion⟩ := (hsound₂.standsOn record hrecord).reference
    obtain ⟨tdataset, htdataset, htversion⟩ := (hsound₂.standsOn record hrecord).target
    constructor
    · refine (hrversion.eq_of_sound hsound₂ hrdataset hrmem₂ ?_ ?_).symm
      · rw [hrdefinition, hdefinition, hcloses.reference_id]
      · rw [hrdefinition, hdefinition, hcloses.reference_digest]
    · refine (htversion.eq_of_sound hsound₂ htdataset htmem ?_ ?_).symm
      · rw [htdefinition, hdefinition, hcloses.target_id]
      · rw [htdefinition, hdefinition, hcloses.target_digest]
  have hciff : registry₂.ContractConflict call.definition.contract ↔
      registry.ContractConflict call.definition.contract := by
    rw [Registry.ContractConflict, hcontracts]
    exact Iff.rfl
  rcases bindContract_cases hsound₂ now (hcontracts ▸ hown.contract) hversions with
    ⟨hconflict, stored, hcbind⟩ | ⟨hcfree, contract, registry₃, hcbind⟩
  · left
    refine ⟨.inr (.inr (hciff.mp hconflict)), contractConflict call.definition.contract stored, ?_,
      .inr rfl⟩
    rw [Registry.register, hrbind]
    simp only [bind, Except.bind, htbind, hcbind]
  obtain ⟨hsound₃, hgrows₃, hcmem, hcdefinition, hcreference, hctarget, hcsource⟩ :=
    hsound₂.bindContract call.admitted.contract hstands hcbind
  have hdatasets₃ : registry₃.datasets = registry₂.datasets := by
    rcases hcsource with rfl | ⟨rfl, -⟩ <;> rfl
  have hartifacts₃ : registry₃.codeArtifacts = registry.codeArtifacts := by
    rw [← hartifacts]
    rcases hcsource with rfl | ⟨rfl, -⟩ <;> rfl
  have hids : (call.artifacts.map Prod.fst).Nodup := by
    rw [call.map_fst_artifacts]
    exact hown.artifactIds_nodup
  obtain ⟨records, registry₄, habind, hsound₄, hbinds⟩ := bindCodeArtifacts_eq hsound₃ now
    call.artifacts_admitted hids (hartifacts₃ ▸ hown.codeArtifacts)
  have hgrows₄ : Extends registry₃ registry₄ := by
    rw [hbinds.after_eq]
    exact ⟨List.prefix_refl _, List.prefix_refl _, List.prefix_append _ _⟩
  have hdatasets₄ : registry₄.datasets = registry₂.datasets := by
    rw [hbinds.after_eq]
    exact hdatasets₃
  have hcontracts₄ : registry₄.contracts = registry₃.contracts := by
    rw [hbinds.after_eq]
  have hmake := make_registration_eq call ⟨reference, target, contract, records⟩ hown.artifactIds_nodup hrdefinition
    htdefinition hcdefinition ⟨hcreference, hctarget⟩ hbinds.records_eq
  right
  refine ⟨?_, ⟨reference, target, contract, records⟩, registry₄, ?_, ?_⟩
  · rintro (hconflict | hconflict | hconflict)
    · exact hrfree hconflict
    · exact htfree (htiff.mpr hconflict)
    · exact hcfree (hciff.mpr hconflict)
  · rw [Registry.register, hrbind]
    simp only [bind, Except.bind, htbind, hcbind, habind, hmake, checked, Except.mapError]
  · constructor
    · exact hsound₄
    · exact ((hgrows₁.trans hgrows₂).trans hgrows₃).trans hgrows₄
    · rw [hdatasets₄]
      exact hrmem₂
    · exact hrdefinition
    · rw [hdatasets₄]
      exact htmem
    · exact htdefinition
    · rw [hcontracts₄]
      exact hcmem
    · exact hcdefinition
    · exact ⟨hcreference, hctarget⟩
    · exact hbinds.records_eq
    · exact hbinds.stored
    · intro record hrecord
      rw [hdatasets₄] at hrecord
      exact mem_of_two_binds hrsource hrdefinition htsource htdefinition hrecord
    · intro record hrecord
      rw [hcontracts₄] at hrecord
      rcases hcsource with rfl | ⟨rfl, hcid⟩
      · rw [hcontracts] at hrecord
        exact .inl hrecord
      · rcases List.mem_append.mp hrecord with hold | hlast
        · rw [hcontracts] at hold
          exact .inl hold
        · rw [List.mem_singleton] at hlast
          rw [hlast]
          exact .inr ⟨hcid, hcdefinition⟩
    · rw [hbinds.after_eq]
      simp only [newArtifacts, hartifacts₃]

end ForensicData.Persistence
