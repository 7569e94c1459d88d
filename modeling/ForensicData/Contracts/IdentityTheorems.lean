/-
ForensicData.Contracts.IdentityTheorems — what the identity of a check is made of.

Two checks have the same digest preimage exactly when they agree on what
`contract_semantic_value` projects: schemas and SQL texts by their digests, all
else by value. The projection of a parameter leaves out the name and the
nullability of its field; the compiler fixes both, so nothing is lost.
-/
import ForensicData.Contracts.Identity

namespace ForensicData.Contracts

open ForensicData.Canonical
open ForensicData.Lib

/-! ## Agreement -/

/-- Two SQL texts with one digest, dialect and parameter list. -/
structure ArtifactsAgree (left right : SqlArtifactDefinition) : Prop where
  dialect : left.dialect = right.dialect
  parameters : left.parameters = right.parameters
  contentSha256 : left.contentSha256 = right.contentSha256

inductive LocatorsAgree : DatasetLocator → DatasetLocator → Prop
  | relation (locator : RelationLocator) : LocatorsAgree (.relation locator) (.relation locator)
  | sqlArtifact {left right : SqlArtifactDefinition} (h : ArtifactsAgree left right) :
    LocatorsAgree (.sqlArtifact left) (.sqlArtifact right)

inductive ReadinessAgrees : ReadinessDefinition → ReadinessDefinition → Prop
  | sqlArtifact {left right : SqlArtifactDefinition} (h : ArtifactsAgree left right) :
    ReadinessAgrees (.sqlArtifact left) (.sqlArtifact right)
  | relationManifest (manifest : RelationManifestReadiness) :
    ReadinessAgrees (.relationManifest manifest) (.relationManifest manifest)

structure SchemasAgree (left right : LogicalSchemaDefinition) : Prop where
  logicalSchemaDigest : left.logicalSchemaDigest = right.logicalSchemaDigest
  equality : left.equality = right.equality

structure ConnectionsAgree (left right : ConnectionDefinition) : Prop where
  connectionId : left.connectionId = right.connectionId
  adapter : left.adapter = right.adapter
  driver : left.driver = right.driver
  profile : left.profile = right.profile

structure DatasetsAgree (left right : DatasetDefinition) : Prop where
  datasetId : left.datasetId = right.datasetId
  connection : ConnectionsAgree left.connection right.connection
  grain : left.grain = right.grain
  locator : LocatorsAgree left.locator right.locator
  logicalSchema : SchemasAgree left.logicalSchema right.logicalSchema
  projection : left.projection = right.projection

structure ConsistencyDatasetsAgree (left right : ConsistencyDatasetDefinition) : Prop where
  datasetId : left.datasetId = right.datasetId
  readiness : ReadinessAgrees left.readiness right.readiness
  stableRead : left.stableRead = right.stableRead

structure ConsistencyAgrees (left right : ConsistencyDefinition) : Prop where
  alignmentFields : left.alignmentFields = right.alignmentFields
  datasets : List.Forall₂ ConsistencyDatasetsAgree left.datasets right.datasets
  lateArrivals : left.lateArrivals = right.lateArrivals
  minimumEvidence : left.minimumEvidence = right.minimumEvidence

/-- Two checks, each in a contract of some version, mean the same comparison. -/
structure ChecksAgree (leftVersion : Int) (left : RowCheckDefinition) (rightVersion : Int)
    (right : RowCheckDefinition) : Prop where
  configVersion : leftVersion = rightVersion
  assurancePolicy : left.assurancePolicy = right.assurancePolicy
  reference : DatasetsAgree left.reference right.reference
  target : DatasetsAgree left.target right.target
  key : left.key = right.key
  comparisonSchema : SchemasAgree left.comparisonSchema right.comparisonSchema
  parameters : left.scope.parameters = right.scope.parameters
  bindings : left.scope.bindings = right.scope.bindings
  nullPartition : left.scope.nullPartition = right.scope.nullPartition
  consistency : ConsistencyAgrees left.consistency right.consistency

/-! ## Declared parameters -/

/-- The field of a parameter is the one the compiler builds for its name. -/
def IsParameterField (name : String) (field : FieldSchema) : Prop :=
  field.name = name ∧ field.nullable = false

def SqlArtifactDefinition.Declared (artifact : SqlArtifactDefinition) : Prop :=
  ∀ parameter ∈ artifact.parameters, IsParameterField parameter.name parameter.field

def DatasetLocator.Declared : DatasetLocator → Prop
  | .relation _ => True
  | .sqlArtifact artifact => artifact.Declared

def ReadinessDefinition.Declared : ReadinessDefinition → Prop
  | .sqlArtifact artifact => artifact.Declared
  | .relationManifest _ => True

/-- All parameters of a check have the fields the compiler builds. -/
structure RowCheckDefinition.Declared (check : RowCheckDefinition) : Prop where
  reference : check.reference.locator.Declared
  target : check.target.locator.Declared
  scope : ∀ parameter ∈ check.scope.parameters, IsParameterField parameter.name parameter.field
  readiness : ∀ item ∈ check.consistency.datasets, item.readiness.Declared

/-! ## Enumerations -/

theorem Adapter.value_injective : Function.Injective Adapter.value := by
  intro a b h
  cases a <;> cases b <;> first | rfl | exact absurd h (by decide)

theorem RelationScope.value_injective : Function.Injective RelationScope.value := by
  intro a b h
  cases a <;> cases b <;> first | rfl | exact absurd h (by decide)

theorem MinimumEvidence.value_injective : Function.Injective MinimumEvidence.value := by
  intro a b h
  cases a <;> cases b <;> first | rfl | exact absurd h (by decide)

theorem StableReadKind.value_injective : Function.Injective StableReadKind.value := by
  intro a b h
  cases a <;> cases b <;> first | rfl | exact absurd h (by decide)

theorem AssurancePolicy.value_injective : Function.Injective AssurancePolicy.value := by
  intro a b h
  cases a <;> cases b <;> first | rfl | exact absurd h (by decide)

theorem textOrNull_injective : Function.Injective textOrNull := by
  intro a b h
  cases a <;> cases b <;> simp_all [textOrNull]

/-! ## Parameters and artifacts -/

theorem fieldTypeSemantics_inj {left right : FieldSchema} (hname : left.name = right.name)
    (hnullable : left.nullable = right.nullable)
    (h : fieldTypeSemantics left = fieldTypeSemantics right) : left = right := by
  simp only [fieldTypeSemantics, Json.object.injEq, List.cons.injEq, Prod.mk.injEq,
    Json.string.injEq, true_and, and_true] at h
  obtain ⟨hkind, hparameters⟩ := h
  have hkind := LogicalType.value_injective hkind
  have hparameters := parametersMetadata_injective hparameters
  have hnormalization : left.normalization = right.normalization := rfl
  cases left
  cases right
  simp_all

/-- A map that is injective on the items of two lists is injective on the lists. -/
theorem map_cancel {α β : Type} {f : α → β} {good : α → Prop}
    (hf : ∀ a b, good a → good b → f a = f b → a = b) {left right : List α}
    (hleft : ∀ a ∈ left, good a) (hright : ∀ b ∈ right, good b)
    (h : left.map f = right.map f) : left = right := by
  induction left generalizing right with
  | nil => simpa using h.symm
  | cons a left ih =>
    cases right with
    | nil => simp at h
    | cons b right =>
      simp only [List.map_cons, List.cons.injEq] at h
      have hhead := hf a b (hleft a List.mem_cons_self) (hright b List.mem_cons_self) h.1
      have htail := ih (fun x hx => hleft x (List.mem_cons_of_mem _ hx))
        (fun x hx => hright x (List.mem_cons_of_mem _ hx)) h.2
      rw [hhead, htail]

theorem sqlParameterSemantics_inj {left right : SqlParameterDefinition}
    (hleft : IsParameterField left.name left.field)
    (hright : IsParameterField right.name right.field)
    (h : sqlParameterSemantics left = sqlParameterSemantics right) : left = right := by
  simp only [sqlParameterSemantics, Json.object.injEq, List.cons.injEq, Prod.mk.injEq,
    Json.string.injEq, true_and, and_true] at h
  have hfield : left.field = right.field :=
    fieldTypeSemantics_inj (by rw [hleft.1, hright.1, h.1]) (by rw [hleft.2, hright.2]) h.2
  cases left
  cases right
  simp_all

theorem scopeParameterSemantics_inj {left right : ScopeParameterDefinition}
    (hleft : IsParameterField left.name left.field)
    (hright : IsParameterField right.name right.field)
    (h : scopeParameterSemantics left = scopeParameterSemantics right) : left = right := by
  simp only [scopeParameterSemantics, Json.object.injEq, List.cons.injEq, Prod.mk.injEq,
    Json.string.injEq, true_and, and_true] at h
  have hfield : left.field = right.field :=
    fieldTypeSemantics_inj (by rw [hleft.1, hright.1, h.1]) (by rw [hleft.2, hright.2]) h.2
  cases left
  cases right
  simp_all

theorem sqlArtifactSemantics_eq_iff {left right : SqlArtifactDefinition} (hleft : left.Declared)
    (hright : right.Declared) :
    sqlArtifactSemantics left = sqlArtifactSemantics right ↔ ArtifactsAgree left right := by
  constructor
  · intro h
    simp only [sqlArtifactSemantics, sqlParametersSemanticValue, Json.object.injEq,
      List.cons.injEq, Prod.mk.injEq, Json.string.injEq, Json.array.injEq, true_and,
      and_true] at h
    exact ⟨rfl, map_cancel (fun a b => sqlParameterSemantics_inj) hleft hright h.2, h.1⟩
  · intro h
    unfold sqlArtifactSemantics
    rw [h.dialect, h.parameters, h.contentSha256]

/-! ## Locators and readiness -/

theorem relationSemantics_injective : Function.Injective relationSemantics := by
  intro left right h
  simp only [relationSemantics, Json.object.injEq, List.cons.injEq, Prod.mk.injEq,
    Json.string.injEq, true_and, and_true] at h
  obtain ⟨hcatalog, hname, hscope, hschema⟩ := h
  have hcatalog := textOrNull_injective hcatalog
  have hscope := RelationScope.value_injective hscope
  cases left
  cases right
  simp_all

theorem locatorSemantics_eq_iff {left right : DatasetLocator} (hleft : left.Declared)
    (hright : right.Declared) :
    locatorSemantics left = locatorSemantics right ↔ LocatorsAgree left right := by
  cases left with
  | relation left =>
    cases right with
    | relation right =>
      constructor
      · intro h
        rw [relationSemantics_injective h]
        exact LocatorsAgree.relation right
      · intro h
        cases h
        rfl
    | sqlArtifact right =>
      constructor
      · intro h
        simp [locatorSemantics, relationSemantics, sqlArtifactSemantics] at h
      · intro h
        cases h
  | sqlArtifact left =>
    cases right with
    | relation right =>
      constructor
      · intro h
        simp [locatorSemantics, relationSemantics, sqlArtifactSemantics] at h
      · intro h
        cases h
    | sqlArtifact right =>
      constructor
      · intro h
        exact LocatorsAgree.sqlArtifact ((sqlArtifactSemantics_eq_iff hleft hright).mp h)
      · intro h
        cases h with
        | sqlArtifact h => exact (sqlArtifactSemantics_eq_iff hleft hright).mpr h

theorem manifestColumnsSemantics_injective : Function.Injective manifestColumnsSemantics := by
  intro left right h
  cases left
  cases right
  simp_all [manifestColumnsSemantics]

theorem readinessSemantics_manifest_inj {left right : RelationManifestReadiness}
    (h : readinessSemantics (.relationManifest left) =
      readinessSemantics (.relationManifest right)) : left = right := by
  simp only [readinessSemantics, Json.object.injEq, List.cons.injEq, Prod.mk.injEq,
    Json.string.injEq, true_and, and_true] at h
  obtain ⟨hcolumns, hconnection, hrelation⟩ := h
  have hcolumns := manifestColumnsSemantics_injective hcolumns
  have hrelation := relationSemantics_injective hrelation
  cases left
  cases right
  simp_all

theorem readinessSemantics_eq_iff {left right : ReadinessDefinition} (hleft : left.Declared)
    (hright : right.Declared) :
    readinessSemantics left = readinessSemantics right ↔ ReadinessAgrees left right := by
  cases left with
  | sqlArtifact left =>
    cases right with
    | sqlArtifact right =>
      constructor
      · intro h
        exact ReadinessAgrees.sqlArtifact ((sqlArtifactSemantics_eq_iff hleft hright).mp h)
      · intro h
        cases h with
        | sqlArtifact h => exact (sqlArtifactSemantics_eq_iff hleft hright).mpr h
    | relationManifest right =>
      constructor
      · intro h
        simp [readinessSemantics, sqlArtifactSemantics] at h
      · intro h
        cases h
  | relationManifest left =>
    cases right with
    | sqlArtifact right =>
      constructor
      · intro h
        simp [readinessSemantics, sqlArtifactSemantics] at h
      · intro h
        cases h
    | relationManifest right =>
      constructor
      · intro h
        rw [readinessSemantics_manifest_inj h]
        exact ReadinessAgrees.relationManifest right
      · intro h
        cases h
        rfl

/-! ## Datasets, scopes and consistency -/

theorem schemaSemantics_eq_iff {left right : LogicalSchemaDefinition} :
    schemaSemantics left = schemaSemantics right ↔ SchemasAgree left right := by
  constructor
  · intro h
    simp only [schemaSemantics, Json.object.injEq, List.cons.injEq, Prod.mk.injEq,
      Json.string.injEq, Json.array.injEq, true_and, and_true] at h
    have hinj : Function.Injective fun equality : FieldEquality => Json.string equality.value :=
      fun a b _ => rfl
    exact ⟨String.ofList_injective h.2, List.map_injective_iff.mpr hinj h.1⟩
  · intro h
    unfold schemaSemantics
    rw [h.logicalSchemaDigest, h.equality]

theorem connectionSemantics_eq_iff {left right : ConnectionDefinition} :
    connectionSemantics left = connectionSemantics right ↔ ConnectionsAgree left right := by
  constructor
  · intro h
    simp only [connectionSemantics, Json.object.injEq, List.cons.injEq, Prod.mk.injEq,
      Json.string.injEq, true_and, and_true] at h
    exact ⟨h.2.1, Adapter.value_injective h.1, h.2.2.1, h.2.2.2⟩
  · intro h
    unfold connectionSemantics
    rw [h.connectionId, h.adapter, h.driver, h.profile]

theorem jsonString_injective : Function.Injective Json.string := by
  intro a b h
  simpa using h

theorem projectedFieldSemantics_injective : Function.Injective projectedFieldSemantics := by
  intro left right h
  cases left
  cases right
  simp_all [projectedFieldSemantics]

theorem scopeBindingSemantics_injective : Function.Injective scopeBindingSemantics := by
  intro left right h
  have hoperator : left.operator = right.operator := rfl
  cases left
  cases right
  simp_all [scopeBindingSemantics]

theorem datasetBodySemantics_eq_iff {left right : DatasetDefinition}
    (hleft : left.locator.Declared) (hright : right.locator.Declared) :
    datasetBodySemantics left = datasetBodySemantics right ↔ DatasetsAgree left right := by
  constructor
  · intro h
    simp only [datasetBodySemantics, Json.object.injEq, List.cons.injEq, Prod.mk.injEq,
      Json.string.injEq, Json.array.injEq, true_and, and_true] at h
    obtain ⟨hconnection, hid, hgrain, hlocator, hschema, hprojection⟩ := h
    exact
      { datasetId := hid
        connection := connectionSemantics_eq_iff.mp hconnection
        grain := List.map_injective_iff.mpr jsonString_injective hgrain
        locator := (locatorSemantics_eq_iff hleft hright).mp hlocator
        logicalSchema := schemaSemantics_eq_iff.mp hschema
        projection := List.map_injective_iff.mpr projectedFieldSemantics_injective hprojection }
  · intro h
    unfold datasetBodySemantics
    rw [connectionSemantics_eq_iff.mpr h.connection, h.datasetId, h.grain,
      (locatorSemantics_eq_iff hleft hright).mpr h.locator,
      schemaSemantics_eq_iff.mpr h.logicalSchema, h.projection]

theorem scopeSemantics_eq_iff {left right : ScopeDefinition}
    (hleft : ∀ parameter ∈ left.parameters, IsParameterField parameter.name parameter.field)
    (hright : ∀ parameter ∈ right.parameters, IsParameterField parameter.name parameter.field) :
    scopeSemantics left = scopeSemantics right ↔
      left.parameters = right.parameters ∧ left.bindings = right.bindings ∧
        left.nullPartition = right.nullPartition := by
  constructor
  · intro h
    simp only [scopeSemantics, Json.object.injEq, List.cons.injEq, Prod.mk.injEq,
      Json.array.injEq, true_and, and_true] at h
    obtain ⟨hbindings, hparameters⟩ := h
    exact ⟨map_cancel (fun a b => scopeParameterSemantics_inj) hleft hright hparameters,
      List.map_injective_iff.mpr scopeBindingSemantics_injective hbindings, rfl⟩
  · intro h
    unfold scopeSemantics
    rw [h.1, h.2.1, h.2.2]

theorem consistencyDatasetSemantics_eq_iff {left right : ConsistencyDatasetDefinition}
    (hleft : left.readiness.Declared) (hright : right.readiness.Declared) :
    consistencyDatasetSemantics left = consistencyDatasetSemantics right ↔
      ConsistencyDatasetsAgree left right := by
  constructor
  · intro h
    simp only [consistencyDatasetSemantics, Json.object.injEq, List.cons.injEq, Prod.mk.injEq,
      Json.string.injEq, true_and, and_true] at h
    obtain ⟨hid, hreadiness, hstable⟩ := h
    exact ⟨hid, (readinessSemantics_eq_iff hleft hright).mp hreadiness,
      StableReadKind.value_injective hstable⟩
  · intro h
    unfold consistencyDatasetSemantics
    rw [h.datasetId, (readinessSemantics_eq_iff hleft hright).mpr h.readiness, h.stableRead]

theorem map_consistencyDatasets_eq_iff {left right : List ConsistencyDatasetDefinition}
    (hleft : ∀ item ∈ left, item.readiness.Declared)
    (hright : ∀ item ∈ right, item.readiness.Declared) :
    left.map consistencyDatasetSemantics = right.map consistencyDatasetSemantics ↔
      List.Forall₂ ConsistencyDatasetsAgree left right := by
  induction left generalizing right with
  | nil => cases right <;> simp
  | cons a left ih =>
    cases right with
    | nil => simp
    | cons b right =>
      have hhead := consistencyDatasetSemantics_eq_iff (hleft a List.mem_cons_self)
        (hright b List.mem_cons_self)
      have htail := ih (fun x hx => hleft x (List.mem_cons_of_mem _ hx))
        (fun x hx => hright x (List.mem_cons_of_mem _ hx))
      rw [List.map_cons, List.map_cons, List.cons.injEq, List.forall₂_cons, hhead, htail]

theorem consistencySemantics_eq_iff {left right : ConsistencyDefinition}
    (hleft : ∀ item ∈ left.datasets, item.readiness.Declared)
    (hright : ∀ item ∈ right.datasets, item.readiness.Declared) :
    consistencySemantics left = consistencySemantics right ↔ ConsistencyAgrees left right := by
  constructor
  · intro h
    simp only [consistencySemantics, Json.object.injEq, List.cons.injEq, Prod.mk.injEq,
      Json.string.injEq, Json.array.injEq, true_and, and_true] at h
    obtain ⟨halignment, hdatasets, hevidence⟩ := h
    exact
      { alignmentFields := List.map_injective_iff.mpr jsonString_injective halignment
        datasets := (map_consistencyDatasets_eq_iff hleft hright).mp hdatasets
        lateArrivals := rfl
        minimumEvidence := MinimumEvidence.value_injective hevidence }
  · intro h
    unfold consistencySemantics
    rw [h.alignmentFields, (map_consistencyDatasets_eq_iff hleft hright).mpr h.datasets,
      h.lateArrivals, h.minimumEvidence]

/-! ## Checks -/

theorem contractSemanticValue_eq_iff {leftVersion rightVersion : Int}
    {left right : RowCheckDefinition} (hleft : left.Declared) (hright : right.Declared) :
    contractSemanticValue leftVersion left = contractSemanticValue rightVersion right ↔
      ChecksAgree leftVersion left rightVersion right := by
  constructor
  · intro h
    simp only [contractSemanticValue, Json.object.injEq, List.cons.injEq, Prod.mk.injEq,
      Json.string.injEq, Json.int.injEq, Json.array.injEq, true_and, and_true] at h
    obtain ⟨hassurance, hversion, hconsistency, ⟨hreference, htarget⟩, hkey, hschema, hscope⟩ := h
    obtain ⟨hparameters, hbindings, hnull⟩ :=
      (scopeSemantics_eq_iff hleft.scope hright.scope).mp hscope
    exact
      { configVersion := hversion
        assurancePolicy := AssurancePolicy.value_injective hassurance
        reference := (datasetBodySemantics_eq_iff hleft.reference hright.reference).mp hreference
        target := (datasetBodySemantics_eq_iff hleft.target hright.target).mp htarget
        key := List.map_injective_iff.mpr jsonString_injective hkey
        comparisonSchema := schemaSemantics_eq_iff.mp hschema
        parameters := hparameters
        bindings := hbindings
        nullPartition := hnull
        consistency := (consistencySemantics_eq_iff hleft.readiness hright.readiness).mp
          hconsistency }
  · intro h
    unfold contractSemanticValue
    rw [h.configVersion, h.assurancePolicy, h.key,
      (datasetBodySemantics_eq_iff hleft.reference hright.reference).mpr h.reference,
      (datasetBodySemantics_eq_iff hleft.target hright.target).mpr h.target,
      schemaSemantics_eq_iff.mpr h.comparisonSchema,
      (consistencySemantics_eq_iff hleft.readiness hright.readiness).mpr h.consistency,
      (scopeSemantics_eq_iff hleft.scope hright.scope).mpr
        ⟨h.parameters, h.bindings, h.nullPartition⟩]

theorem canonicalSemanticJson_injective : Function.Injective canonicalSemanticJson := by
  intro left right h
  exact Json.render_injective (String.ofList_injective h)

/-- Different meanings have different preimages, and only these. -/
theorem preimage_eq_iff {leftVersion rightVersion : Int} {left right : RowCheckDefinition}
    (hleft : left.Declared) (hright : right.Declared) :
    canonicalSemanticJson (contractSemanticValue leftVersion left) =
        canonicalSemanticJson (contractSemanticValue rightVersion right) ↔
      ChecksAgree leftVersion left rightVersion right := by
  rw [canonicalSemanticJson_injective.eq_iff]
  exact contractSemanticValue_eq_iff hleft hright

end ForensicData.Contracts
