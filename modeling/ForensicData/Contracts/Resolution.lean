/-
ForensicData.Contracts.Resolution — compiled definitions and their sources.

Datasets, scopes and consistency policies with what each of them is compiled
from. The dictionaries of the contract enter a compiled definition only through
the entries it names; the parameters a definition declares have the fields the
preimage of a check tells apart.
-/
import ForensicData.Contracts.IdentityTheorems
import ForensicData.Contracts.References

namespace ForensicData.Contracts

open ForensicData.Canonical
open ForensicData.Lib

variable {sha256 : Sha256}

/-! ## Declared parameters -/

theorem compileSqlParameters_declared {context : String}
    {compiled parameters : List SqlParameterDefinition} {sources : List SqlParameterSource}
    (hcompiled : ∀ parameter ∈ compiled, IsParameterField parameter.name parameter.field)
    (h : compileSqlParameters context compiled sources = .ok parameters) :
    ∀ parameter ∈ parameters, IsParameterField parameter.name parameter.field := by
  induction sources generalizing compiled with
  | nil =>
    rw [compileSqlParameters, Except.ok.injEq] at h
    rw [← h]
    exact hcompiled
  | cons source sources ih =>
    rw [compileSqlParameters, bind_eq_ok] at h
    obtain ⟨name, -, h⟩ := h
    rw [bind_unit_eq_ok] at h
    replace h := h.2
    rw [bind_eq_ok] at h
    obtain ⟨field, hfield, h⟩ := h
    apply ih ?_ h
    intro parameter hparameter
    rcases List.mem_append.mp hparameter with hold | hnew
    · exact hcompiled parameter hold
    · rw [List.mem_singleton] at hnew
      subst hnew
      exact fieldSchema_kept hfield

theorem compileScopeParameters_declared {context : String}
    {compiled parameters : List ScopeParameterDefinition} {sources : List ScopeParameterSource}
    (hcompiled : ∀ parameter ∈ compiled, IsParameterField parameter.name parameter.field)
    (h : compileScopeParameters context compiled sources = .ok parameters) :
    ∀ parameter ∈ parameters, IsParameterField parameter.name parameter.field := by
  induction sources generalizing compiled with
  | nil =>
    rw [compileScopeParameters, Except.ok.injEq] at h
    rw [← h]
    exact hcompiled
  | cons source sources ih =>
    rw [compileScopeParameters, bind_eq_ok] at h
    obtain ⟨name, -, h⟩ := h
    rw [bind_unit_eq_ok] at h
    replace h := h.2
    rw [bind_eq_ok] at h
    obtain ⟨field, hfield, h⟩ := h
    apply ih ?_ h
    intro parameter hparameter
    rcases List.mem_append.mp hparameter with hold | hnew
    · exact hcompiled parameter hold
    · rw [List.mem_singleton] at hnew
      subst hnew
      exact fieldSchema_kept hfield

theorem compileSqlArtifact_declared {source : SqlArtifactSource} {adapter : Adapter}
    {context : String} {artifact : SqlArtifactDefinition}
    (h : compileSqlArtifact sha256 source adapter context = .ok artifact) : artifact.Declared := by
  rw [compileSqlArtifact] at h
  simp only [bind_unit_eq_ok] at h
  obtain ⟨-, -, -, -, h⟩ := h
  rw [bind_eq_ok] at h
  obtain ⟨parameters, hparameters, h⟩ := h
  rw [SqlArtifactDefinition.make, bind_unit_eq_ok, Except.ok.injEq] at h
  rw [← h.2]
  exact compileSqlParameters_declared (by simp) hparameters

theorem compileDatasetLocator_declared {connection : ConnectionDefinition} {datasetId : String}
    {source : DatasetLocatorSource} {locator : DatasetLocator}
    (h : compileDatasetLocator sha256 connection datasetId source = .ok locator) :
    locator.Declared := by
  cases source with
  | relation source =>
    rw [compileDatasetLocator, bind_eq_ok] at h
    obtain ⟨relation, -, h⟩ := h
    rw [Except.ok.injEq] at h
    subst h
    trivial
  | sqlArtifact source =>
    rw [compileDatasetLocator, bind_eq_ok] at h
    obtain ⟨artifact, hartifact, h⟩ := h
    rw [Except.ok.injEq] at h
    subst h
    exact compileSqlArtifact_declared hartifact

theorem compileReadiness_declared {dataset : DatasetDefinition} {context : String}
    {source : ReadinessSource} {readiness : ReadinessDefinition}
    (h : compileReadiness sha256 dataset context source = .ok readiness) :
    readiness.Declared := by
  cases source with
  | sqlArtifact source =>
    rw [compileReadiness, bind_unit_eq_ok] at h
    replace h := h.2
    rw [bind_eq_ok] at h
    obtain ⟨artifact, hartifact, h⟩ := h
    rw [Except.ok.injEq] at h
    subst h
    exact compileSqlArtifact_declared hartifact
  | relationManifest source =>
    rw [compileReadiness, bind_eq_ok] at h
    obtain ⟨manifest, -, h⟩ := h
    rw [Except.ok.injEq] at h
    subst h
    trivial

/-! ## Datasets -/

/-- A compiled dataset with the definitions it refers to. -/
structure DatasetResolved (sha256 : Sha256) (connections : List (String × ConnectionDefinition))
    (schemas : List (String × LogicalSchemaDefinition)) (source : DatasetSource)
    (dataset : DatasetDefinition) : Prop where
  datasetId : dataset.datasetId = source.datasetId
  connection : (source.connectionRef, dataset.connection) ∈ connections
  logicalSchema : (source.logicalSchemaRef, dataset.logicalSchema) ∈ schemas
  locator : compileDatasetLocator sha256 dataset.connection source.datasetId source.locator =
    .ok dataset.locator
  projection : source.projection.mapM (compileProjectedField source.datasetId) =
    .ok dataset.projection
  grain : dataset.grain = source.grain

theorem compileDataset_eq_ok {connections : List (String × ConnectionDefinition)}
    {schemas : List (String × LogicalSchemaDefinition)} {source : DatasetSource}
    {dataset : DatasetDefinition}
    (h : compileDataset sha256 connections schemas source = .ok dataset) :
    DatasetResolved sha256 connections schemas source dataset := by
  rw [compileDataset, bind_eq_ok] at h
  obtain ⟨datasetId, hid, h⟩ := h
  obtain ⟨-, -, rfl⟩ := logicalName_eq_ok.mp hid
  rw [bind_eq_ok] at h
  obtain ⟨connection, hconnection, h⟩ := h
  rw [bind_eq_ok] at h
  obtain ⟨logicalSchema, hschema, h⟩ := h
  rw [bind_eq_ok] at h
  obtain ⟨locator, hlocator, h⟩ := h
  rw [bind_unit_eq_ok] at h
  replace h := h.2
  rw [bind_eq_ok] at h
  obtain ⟨projection, hprojection, h⟩ := h
  rw [bind_eq_ok] at h
  obtain ⟨grain, hgrain, h⟩ := h
  rw [Except.ok.injEq] at h
  subst h
  exact
    { datasetId := rfl
      connection := requiredReference_mem hconnection
      logicalSchema := requiredReference_mem hschema
      locator := hlocator
      projection := hprojection
      grain := orderedKnownFields_eq_ok hgrain }

/-- Every dataset stands under its own name. -/
def WellNamed (datasets : List (String × DatasetDefinition)) : Prop :=
  ∀ entry ∈ datasets, entry.2.datasetId = entry.1

theorem wellNamed_of_dictionary {connections : List (String × ConnectionDefinition)}
    {schemas : List (String × LogicalSchemaDefinition)} {sources : List DatasetSource}
    {datasets : List (String × DatasetDefinition)}
    (h : Dictionary DatasetSource.datasetId (compileDataset sha256 connections schemas) sources
      datasets) : WellNamed datasets := by
  intro entry hentry
  obtain ⟨source, -, hname, hcompile⟩ := h.exists_source hentry
  rw [(compileDataset_eq_ok hcompile).datasetId, hname]

theorem compileConnection_eq_ok {source : ConnectionSource} {connection : ConnectionDefinition}
    (h : compileConnection source = .ok connection) :
    connection.connectionId = source.connectionId ∧
      Adapter.ofValue source.adapter = some connection.adapter ∧
      connection.driver = source.driver ∧ connection.profile = source.profile := by
  rw [compileConnection, bind_eq_ok] at h
  obtain ⟨connectionId, hid, h⟩ := h
  obtain ⟨-, -, rfl⟩ := logicalName_eq_ok.mp hid
  dsimp only at h
  split at h
  · cases h
  case h_2 adapter hadapter =>
    rw [bind_eq_ok] at h
    obtain ⟨driver, hdriver, h⟩ := h
    obtain ⟨-, -, rfl⟩ := logicalName_eq_ok.mp hdriver
    rw [bind_eq_ok] at h
    obtain ⟨profile, hprofile, h⟩ := h
    obtain ⟨-, -, rfl⟩ := logicalName_eq_ok.mp hprofile
    rw [bind_eq_ok] at h
    obtain ⟨secretRef, -, h⟩ := h
    rw [bind_unit_eq_ok] at h
    replace h := h.2
    rw [bind_eq_ok] at h
    obtain ⟨roles, -, h⟩ := h
    rw [bind_unit_eq_ok, Except.ok.injEq] at h
    rw [← h.2]
    exact ⟨rfl, hadapter, rfl, rfl⟩

/-- The secret of a connection is not part of its meaning. -/
theorem compileConnection_agree {source : ConnectionSource} {secretRef : String}
    {left right : ConnectionDefinition} (hleft : compileConnection source = .ok left)
    (hright : compileConnection { source with secretRef } = .ok right) :
    ConnectionsAgree left right := by
  obtain ⟨hid, hadapter, hdriver, hprofile⟩ := compileConnection_eq_ok hleft
  obtain ⟨hid', hadapter', hdriver', hprofile'⟩ := compileConnection_eq_ok hright
  exact
    { connectionId := hid.trans hid'.symm
      adapter := Option.some.inj (hadapter.symm.trans hadapter')
      driver := hdriver.trans hdriver'.symm
      profile := hprofile.trans hprofile'.symm }

theorem compileDatasetLocator_congr {left right : ConnectionDefinition}
    (hadapter : left.adapter = right.adapter) (datasetId : String)
    (source : DatasetLocatorSource) :
    compileDatasetLocator sha256 left datasetId source =
      compileDatasetLocator sha256 right datasetId source := by
  cases source with
  | relation source => simp only [compileDatasetLocator, compileRelationLocator, hadapter]
  | sqlArtifact source => simp only [compileDatasetLocator, hadapter]

theorem ArtifactsAgree.refl (artifact : SqlArtifactDefinition) :
    ArtifactsAgree artifact artifact := ⟨rfl, rfl, rfl⟩

theorem LocatorsAgree.refl (locator : DatasetLocator) : LocatorsAgree locator locator := by
  cases locator with
  | relation locator => exact .relation locator
  | sqlArtifact artifact => exact .sqlArtifact (.refl artifact)

theorem ReadinessAgrees.refl (readiness : ReadinessDefinition) :
    ReadinessAgrees readiness readiness := by
  cases readiness with
  | sqlArtifact artifact => exact .sqlArtifact (.refl artifact)
  | relationManifest manifest => exact .relationManifest manifest

/-! ## Scopes -/

/-- The binding a source binding is compiled to. -/
def declaredBinding (source : ScopeBindingSource) : ScopeBinding :=
  { datasetId := source.datasetRef, column := source.column, operator := .equal
    parameter := source.parameterRef }

theorem compileScopeBinding_eq_ok {datasets : List (String × DatasetDefinition)}
    {parameters : List ScopeParameterDefinition} {context : String} {datasetRefs : List String}
    {source : ScopeBindingSource} {binding : ScopeBinding} (hnamed : WellNamed datasets)
    (h : compileScopeBinding datasets parameters context datasetRefs source = .ok binding) :
    binding = declaredBinding source := by
  rw [compileScopeBinding, bind_eq_ok] at h
  obtain ⟨dataset, hdataset, h⟩ := h
  have hid : dataset.datasetId = source.datasetRef := hnamed _ (requiredReference_mem hdataset)
  rw [bind_unit_eq_ok] at h
  replace h := h.2
  split at h
  · cases h
  case h_2 parameter hparameter =>
    have hname : parameter.name = source.parameterRef := by
      simpa using List.find?_some hparameter
    split at h
    · cases h
    · rw [bind_eq_ok] at h
      obtain ⟨column, hcolumn, h⟩ := h
      rw [physicalName, bind_unit_eq_ok, bind_unit_eq_ok, Except.ok.injEq] at hcolumn
      rw [bind_eq_ok] at h
      obtain ⟨projectedField, -, h⟩ := h
      rw [bind_unit_eq_ok, Except.ok.injEq] at h
      rw [← h.2, declaredBinding, hid, hname, ← hcolumn.2.2]

theorem compileScopeBindings_eq_ok {datasets : List (String × DatasetDefinition)}
    {parameters : List ScopeParameterDefinition} {context : String}
    {compiled bindings : List ScopeBinding} {sources : List ScopeBindingSource}
    (hnamed : WellNamed datasets)
    (h : compileScopeBindings datasets parameters context compiled sources = .ok bindings) :
    bindings = compiled ++ sources.map declaredBinding := by
  induction sources generalizing compiled with
  | nil =>
    rw [compileScopeBindings, Except.ok.injEq] at h
    simp [h]
  | cons source sources ih =>
    rw [compileScopeBindings, bind_eq_ok] at h
    obtain ⟨binding, hbinding, h⟩ := h
    rw [ih h, compileScopeBinding_eq_ok hnamed hbinding, List.append_assoc]
    rfl

theorem compileScope_eq_ok {source : ScopeSource} {datasets : List (String × DatasetDefinition)}
    {context : String} {scope : ScopeDefinition} (hnamed : WellNamed datasets)
    (h : compileScope source datasets context = .ok scope) :
    compileScopeParameters context [] source.parameters = .ok scope.parameters ∧
      scope.bindings = source.bindings.map declaredBinding := by
  unfold compileScope at h
  split at h
  · cases h
  · rw [bind_unit_eq_ok] at h
    replace h := h.2
    rw [bind_eq_ok] at h
    obtain ⟨parameters, hparameters, h⟩ := h
    simp only [bind_unit_eq_ok] at h
    obtain ⟨-, -, h⟩ := h
    rw [bind_eq_ok] at h
    obtain ⟨bindings, hbindings, h⟩ := h
    rw [Except.ok.injEq] at h
    subst h
    exact ⟨hparameters, compileScopeBindings_eq_ok hnamed hbindings⟩

/-- The datasets a scope binds are looked up only to be checked. -/
theorem compileScope_unique {source : ScopeSource}
    {leftDatasets rightDatasets : List (String × DatasetDefinition)} {context : String}
    {left right : ScopeDefinition} (hleftNamed : WellNamed leftDatasets)
    (hrightNamed : WellNamed rightDatasets)
    (hleft : compileScope source leftDatasets context = .ok left)
    (hright : compileScope source rightDatasets context = .ok right) : left = right := by
  obtain ⟨hparameters, hbindings⟩ := compileScope_eq_ok hleftNamed hleft
  obtain ⟨hparameters', hbindings'⟩ := compileScope_eq_ok hrightNamed hright
  rw [hparameters, Except.ok.injEq] at hparameters'
  rw [← hbindings'] at hbindings
  have hnull : left.nullPartition = right.nullPartition := rfl
  cases left
  cases right
  simp_all

theorem compileScope_declared {source : ScopeSource}
    {datasets : List (String × DatasetDefinition)} {context : String} {scope : ScopeDefinition}
    (hnamed : WellNamed datasets) (h : compileScope source datasets context = .ok scope) :
    ∀ parameter ∈ scope.parameters, IsParameterField parameter.name parameter.field :=
  compileScopeParameters_declared (by simp) (compileScope_eq_ok hnamed h).1

theorem orderCheckScope_parameters {declared scope : ScopeDefinition}
    {reference target : DatasetDefinition}
    (h : orderCheckScope declared reference target = .ok scope) :
    scope.parameters = declared.parameters := by
  unfold orderCheckScope at h
  split at h
  · rw [Except.ok.injEq] at h
    rw [h]
  · rw [bind_eq_ok] at h
    obtain ⟨referenceBinding, -, h⟩ := h
    rw [bind_eq_ok] at h
    obtain ⟨targetBinding, -, h⟩ := h
    rw [Except.ok.injEq] at h
    rw [← h]

/-! ## Consistency policies -/

/-- One dataset of a consistency policy with what it is compiled from. -/
structure ConsistencyItemResolved (sha256 : Sha256)
    (datasets : List (String × DatasetDefinition)) (context : String)
    (source : ConsistencyDatasetSource) (item : ConsistencyDatasetDefinition) : Prop where
  datasetId : item.datasetId = source.datasetRef
  stableRead : StableReadKind.ofValue source.stableRead = some item.stableRead
  readiness : ∃ dataset, (source.datasetRef, dataset) ∈ datasets ∧
    compileReadiness sha256 dataset
      s!"{context} readiness for dataset {reprText source.datasetRef}" source.readiness =
        .ok item.readiness

theorem compileConsistencyDatasets_eq_ok {datasets : List (String × DatasetDefinition)}
    {minimumEvidence : MinimumEvidence} {context : String}
    {compiled items : List ConsistencyDatasetDefinition} {sources : List ConsistencyDatasetSource}
    (hnamed : WellNamed datasets)
    (hcompiled : (compiled.map ConsistencyDatasetDefinition.datasetId).Nodup)
    (h : compileConsistencyDatasets sha256 datasets minimumEvidence context compiled sources =
      .ok items) :
    ∃ rest, items = compiled ++ rest ∧
      List.Forall₂ (ConsistencyItemResolved sha256 datasets context) sources rest ∧
      (items.map ConsistencyDatasetDefinition.datasetId).Nodup := by
  induction sources generalizing compiled with
  | nil =>
    rw [compileConsistencyDatasets, Except.ok.injEq] at h
    subst h
    exact ⟨[], (List.append_nil _).symm, .nil, hcompiled⟩
  | cons source sources ih =>
    rw [compileConsistencyDatasets, bind_eq_ok] at h
    obtain ⟨dataset, hdataset, h⟩ := h
    have hmem := requiredReference_mem hdataset
    have hid : dataset.datasetId = source.datasetRef := hnamed _ hmem
    rw [bind_unit_eq_ok, refuseIf_eq_ok] at h
    obtain ⟨hfresh, h⟩ := h
    split at h
    · cases h
    case h_2 stableRead hstable =>
      rw [bind_unit_eq_ok] at h
      replace h := h.2
      rw [bind_eq_ok] at h
      obtain ⟨readiness, hreadiness, h⟩ := h
      have hnodup : ((compiled ++ [(⟨dataset.datasetId, readiness, stableRead⟩ :
          ConsistencyDatasetDefinition)]).map ConsistencyDatasetDefinition.datasetId).Nodup := by
        rw [List.map_append, List.map_cons, List.map_nil]
        refine List.nodup_append.mpr ⟨hcompiled, by simp, fun a ha b hb hab => hfresh ?_⟩
        have hsame : a = dataset.datasetId := hab.trans (List.mem_singleton.mp hb)
        exact hsame ▸ ha
      obtain ⟨rest, hitems, hall, hids⟩ := ih hnodup h
      refine ⟨_ :: rest, by rw [hitems, List.append_assoc, List.singleton_append], ?_, hids⟩
      refine .cons ⟨hid, hstable, dataset, hmem, ?_⟩ hall
      rw [← hid]
      exact hreadiness

/-- A compiled consistency policy with what it is compiled from. -/
structure ConsistencyResolved (sha256 : Sha256) (datasets : List (String × DatasetDefinition))
    (source : ConsistencySource) (policy : ConsistencyDefinition) : Prop where
  minimumEvidence : MinimumEvidence.ofValue source.minimumEvidence = some policy.minimumEvidence
  alignmentFields : policy.alignmentFields = source.alignmentFields
  datasets : List.Forall₂ (ConsistencyItemResolved sha256 datasets
    s!"consistency policy {reprText source.consistencyId}") source.datasets policy.datasets
  distinct : (policy.datasets.map ConsistencyDatasetDefinition.datasetId).Nodup

theorem compileConsistency_eq_ok {datasets : List (String × DatasetDefinition)}
    {source : ConsistencySource} {policy : ConsistencyDefinition} (hnamed : WellNamed datasets)
    (h : compileConsistency sha256 datasets source = .ok policy) :
    ConsistencyResolved sha256 datasets source policy := by
  rw [compileConsistency, bind_eq_ok] at h
  obtain ⟨consistencyId, hid, h⟩ := h
  obtain ⟨-, -, rfl⟩ := logicalName_eq_ok.mp hid
  dsimp only at h
  split at h
  · cases h
  case h_2 minimumEvidence hevidence =>
    split at h
    · cases h
    · rw [bind_eq_ok] at h
      obtain ⟨alignmentFields, halignment, h⟩ := h
      rw [bind_eq_ok] at h
      obtain ⟨items, hitems, h⟩ := h
      rw [bind_unit_eq_ok, Except.ok.injEq] at h
      obtain ⟨rest, hrest, hall, hids⟩ :=
        compileConsistencyDatasets_eq_ok hnamed
          (show (([] : List ConsistencyDatasetDefinition).map _).Nodup from List.nodup_nil) hitems
      rw [List.nil_append] at hrest
      subst hrest
      rw [← h.2]
      exact ⟨hevidence, orderedUniqueText_eq_ok halignment, hall, hids⟩

theorem selectConsistencyDataset_eq_ok {policy : ConsistencyDefinition} {direction : String}
    {dataset : DatasetDefinition} {scope : ScopeDefinition} {context : String}
    {item : ConsistencyDatasetDefinition}
    (h : selectConsistencyDataset policy direction dataset scope context = .ok item) :
    item ∈ policy.datasets ∧ item.datasetId = dataset.datasetId := by
  unfold selectConsistencyDataset at h
  split at h
  · cases h
  case h_2 found hfound =>
    have hmem := List.mem_of_find?_eq_some hfound
    have hid : found.datasetId = dataset.datasetId := by simpa using List.find?_some hfound
    split at h
    · rw [bind_unit_eq_ok, Except.ok.injEq] at h
      rw [← h.2]
      exact ⟨hmem, hid⟩
    · rw [bind_unit_eq_ok, Except.ok.injEq] at h
      rw [← h.2]
      exact ⟨hmem, hid⟩

theorem selectConsistency_eq_ok {policy resolved : ConsistencyDefinition}
    {reference target : DatasetDefinition} {scope : ScopeDefinition} {context : String}
    (h : selectConsistency policy reference target scope context = .ok resolved) :
    ∃ referenceItem ∈ policy.datasets, referenceItem.datasetId = reference.datasetId ∧
      ∃ targetItem ∈ policy.datasets, targetItem.datasetId = target.datasetId ∧
        resolved = { policy with datasets := [referenceItem, targetItem] } := by
  rw [selectConsistency, bind_eq_ok] at h
  obtain ⟨referenceItem, hreference, h⟩ := h
  rw [bind_eq_ok] at h
  obtain ⟨targetItem, htarget, h⟩ := h
  rw [Except.ok.injEq] at h
  obtain ⟨hreferenceMem, hreferenceId⟩ := selectConsistencyDataset_eq_ok hreference
  obtain ⟨htargetMem, htargetId⟩ := selectConsistencyDataset_eq_ok htarget
  exact ⟨referenceItem, hreferenceMem, hreferenceId, targetItem, htargetMem, htargetId, h.symm⟩

end ForensicData.Contracts
