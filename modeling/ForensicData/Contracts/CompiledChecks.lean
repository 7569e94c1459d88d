/-
ForensicData.Contracts.CompiledChecks — what the compiler guarantees of a check.

Every name of a compiled check has passed the text checks of the compiler, its
lists of names are distinct, and its readiness is that of its two datasets
(`ContractResolved.check_compiledParts`). The steps after the compiler rely on
this, and on nothing else of the contract.
-/
import ForensicData.Contracts.ContractIdentity
import ForensicData.Reporting.Evidence

namespace ForensicData.Contracts

open ForensicData.Canonical
open ForensicData.Lib

variable {sha256 : Sha256}

/-! ## Names -/

/-- A text without U+0000. -/
def IsPlain (value : String) : Prop := Char.ofNat 0 ∉ value.toList

/-- A text that `_logical_name` accepts. -/
structure IsLogicalName (value : String) : Prop where
  plain : IsPlain value
  nonblank : isBlank value = false

/-- A text that `_physical_name` accepts. -/
structure IsPhysicalName (value : String) : Prop where
  plain : IsPlain value
  nonempty : value ≠ ""

theorem validateText_eq_ok {value context : String} {u : Unit} :
    validateText value context = .ok u ↔ IsPlain value := by
  unfold validateText IsPlain
  cases h : value.toList.findIdx? (· = Char.ofNat 0) with
  | none =>
    rw [List.findIdx?_eq_none_iff] at h
    simp only [true_iff]
    intro hmem
    simpa using h _ hmem
  | some index =>
    have hmem := (List.findIdx?_eq_some_iff_getElem.mp h).2.1
    simp only [reduceCtorEq, false_iff, not_not]
    rw [← of_decide_eq_true hmem]
    exact List.getElem_mem _

theorem isLogicalName_of_logicalName {value context name : String}
    (h : logicalName value context = .ok name) : IsLogicalName name := by
  rcases logicalName_eq_ok.mp h with ⟨hplain, hblank, rfl⟩
  exact ⟨validateText_eq_ok.mp hplain, hblank⟩

theorem isPhysicalName_of_physicalName {value context name : String}
    (h : physicalName value context = .ok name) : IsPhysicalName name := by
  rw [physicalName, bind_unit_eq_ok, bind_unit_eq_ok, refuseIf_eq_ok, Except.ok.injEq] at h
  rcases h with ⟨hplain, hne, rfl⟩
  exact ⟨validateText_eq_ok.mp hplain, hne⟩

/-- Distinct logical names. -/
structure AreLogicalNames (names : List String) : Prop where
  distinct : names.Nodup
  each : ∀ name ∈ names, IsLogicalName name

theorem AreLogicalNames.append {names : List String} {name : String} (h : AreLogicalNames names)
    (hname : IsLogicalName name) (hfresh : name ∉ names) : AreLogicalNames (names ++ [name]) := by
  constructor
  · rw [List.nodup_append]
    refine ⟨h.distinct, by simp, ?_⟩
    intro a ha b hb hab
    rw [List.mem_singleton] at hb
    subst hb hab
    exact hfresh ha
  · intro own hown
    rcases List.mem_append.mp hown with hold | hnew
    · exact h.each own hold
    · rw [List.mem_singleton] at hnew
      subst hnew
      exact hname

theorem areLogicalNames_nil : AreLogicalNames [] := ⟨by simp, by simp⟩

theorem orderedUniqueTextFrom_names {context : String} {seen values names : List String}
    (hseen : AreLogicalNames seen)
    (h : orderedUniqueTextFrom context seen values = .ok names) : AreLogicalNames names := by
  induction values generalizing seen with
  | nil =>
    rw [orderedUniqueTextFrom, Except.ok.injEq] at h
    rwa [← h]
  | cons value values ih =>
    rw [orderedUniqueTextFrom, bind_eq_ok] at h
    rcases h with ⟨name, hname, h⟩
    rw [bind_unit_eq_ok, refuseIf_eq_ok] at h
    exact ih (hseen.append (isLogicalName_of_logicalName hname) h.1) h.2

theorem orderedKnownFields_names {rawNames names : List String} {schema : LogicalSchemaDefinition}
    {context : String} (h : orderedKnownFields rawNames schema context = .ok names) :
    names ≠ [] ∧ AreLogicalNames names := by
  have hsame := orderedKnownFields_eq_ok h
  rw [orderedKnownFields, bind_eq_ok] at h
  rcases h with ⟨found, hfound, h⟩
  rw [bind_unit_eq_ok, Except.ok.injEq] at h
  rcases h with ⟨-, rfl⟩
  rw [orderedUniqueText, bind_unit_eq_ok, refuseIf_eq_ok] at hfound
  exact ⟨hsame ▸ hfound.1, orderedUniqueTextFrom_names areLogicalNames_nil hfound.2⟩

/-! ## Parameters -/

theorem compileSqlParameters_names {context : String}
    {compiled parameters : List SqlParameterDefinition} {sources : List SqlParameterSource}
    (hcompiled : AreLogicalNames (compiled.map SqlParameterDefinition.name))
    (h : compileSqlParameters context compiled sources = .ok parameters) :
    AreLogicalNames (parameters.map SqlParameterDefinition.name) := by
  induction sources generalizing compiled with
  | nil =>
    rw [compileSqlParameters, Except.ok.injEq] at h
    rwa [← h]
  | cons source sources ih =>
    rw [compileSqlParameters, bind_eq_ok] at h
    rcases h with ⟨name, hname, h⟩
    rw [bind_unit_eq_ok, refuseIf_eq_ok] at h
    rcases h with ⟨hfresh, h⟩
    rw [bind_eq_ok] at h
    rcases h with ⟨field, -, h⟩
    apply ih _ h
    rw [List.map_append]
    exact hcompiled.append (isLogicalName_of_logicalName hname) hfresh

theorem compileScopeParameters_names {context : String}
    {compiled parameters : List ScopeParameterDefinition} {sources : List ScopeParameterSource}
    (hcompiled : AreLogicalNames (compiled.map ScopeParameterDefinition.name))
    (h : compileScopeParameters context compiled sources = .ok parameters) :
    AreLogicalNames (parameters.map ScopeParameterDefinition.name) := by
  induction sources generalizing compiled with
  | nil =>
    rw [compileScopeParameters, Except.ok.injEq] at h
    rwa [← h]
  | cons source sources ih =>
    rw [compileScopeParameters, bind_eq_ok] at h
    rcases h with ⟨name, hname, h⟩
    rw [bind_unit_eq_ok, refuseIf_eq_ok] at h
    rcases h with ⟨hfresh, h⟩
    rw [bind_eq_ok] at h
    rcases h with ⟨field, -, h⟩
    apply ih _ h
    rw [List.map_append]
    exact hcompiled.append (isLogicalName_of_logicalName hname) hfresh

/-! ## Parts of a check -/

/-- What the compiler guarantees of a SQL artifact. -/
structure SqlArtifactDefinition.Compiled (artifact : SqlArtifactDefinition) : Prop where
  contentSha256 : isSha256Hex artifact.contentSha256 = true
  names : AreLogicalNames (artifact.parameters.map SqlParameterDefinition.name)

def DatasetLocator.Compiled : DatasetLocator → Prop
  | .relation _ => True
  | .sqlArtifact artifact => artifact.Compiled

/-- What the compiler guarantees of a connection. -/
structure ConnectionDefinition.Compiled (connection : ConnectionDefinition) : Prop where
  connectionId : IsLogicalName connection.connectionId
  driver : IsLogicalName connection.driver
  profile : IsLogicalName connection.profile

/-- What the compiler guarantees of a dataset. -/
structure DatasetDefinition.Compiled (dataset : DatasetDefinition) : Prop where
  datasetId : IsLogicalName dataset.datasetId
  connection : dataset.connection.Compiled
  locator : dataset.locator.Compiled

/-- What the compiler guarantees of a readiness manifest. -/
structure RelationManifestReadiness.Compiled (manifest : RelationManifestReadiness) : Prop where
  catalog : manifest.relation.catalog = none
  relationScope : manifest.relation.relationScope = .physicalOnly
  schema : IsPhysicalName manifest.relation.schema
  name : IsPhysicalName manifest.relation.name
  columns : ∀ column ∈ manifest.columns.values, IsPhysicalName column
  distinct : manifest.columns.values.Nodup

def ReadinessDefinition.Compiled : ReadinessDefinition → Prop
  | .sqlArtifact artifact => artifact.Compiled
  | .relationManifest manifest => manifest.Compiled

/-- The readiness of one side of a check, for its dataset. -/
structure ConsistencyDatasetDefinition.ReadyFor (item : ConsistencyDatasetDefinition)
    (dataset : DatasetDefinition) : Prop where
  datasetId : item.datasetId = dataset.datasetId
  readiness : item.readiness.Compiled
  connection : ∀ manifest, item.readiness = .relationManifest manifest →
    manifest.connectionId = dataset.connection.connectionId

/-- What the compiler guarantees of a check. -/
structure RowCheckDefinition.Compiled (check : RowCheckDefinition) : Prop where
  checkId : IsLogicalName check.checkId
  revision : 1 ≤ check.revision
  reference : check.reference.Compiled
  target : check.target.Compiled
  datasets : check.reference.datasetId ≠ check.target.datasetId
  schemaDigest : isSha256Hex (String.ofList check.comparisonSchema.logicalSchemaDigest) = true
  key : check.key ≠ [] ∧ AreLogicalNames check.key
  scope : AreLogicalNames (check.scope.parameters.map ScopeParameterDefinition.name)
  consistency : ∃ referenceItem targetItem,
    check.consistency.datasets = [referenceItem, targetItem] ∧
      referenceItem.ReadyFor check.reference ∧ targetItem.ReadyFor check.target

/-! ## The compiler -/

theorem compileConnection_compiled {source : ConnectionSource} {connection : ConnectionDefinition}
    (h : compileConnection source = .ok connection) : connection.Compiled := by
  rw [compileConnection, bind_eq_ok] at h
  rcases h with ⟨connectionId, hid, h⟩
  dsimp only at h
  split at h
  · cases h
  · rw [bind_eq_ok] at h
    rcases h with ⟨driver, hdriver, h⟩
    rw [bind_eq_ok] at h
    rcases h with ⟨profile, hprofile, h⟩
    rw [bind_eq_ok] at h
    rcases h with ⟨secretRef, -, h⟩
    rw [bind_unit_eq_ok] at h
    replace h := h.2
    rw [bind_eq_ok] at h
    rcases h with ⟨roles, -, h⟩
    rw [bind_unit_eq_ok, Except.ok.injEq] at h
    rw [← h.2]
    exact ⟨isLogicalName_of_logicalName hid, isLogicalName_of_logicalName hdriver,
      isLogicalName_of_logicalName hprofile⟩

theorem compileSqlArtifact_compiled {source : SqlArtifactSource} {adapter : Adapter}
    {context : String} {artifact : SqlArtifactDefinition}
    (h : compileSqlArtifact sha256 source adapter context = .ok artifact) : artifact.Compiled := by
  rw [compileSqlArtifact] at h
  simp only [bind_unit_eq_ok, refuseIf_eq_ok, Bool.not_eq_false] at h
  rcases h with ⟨-, -, -, hdigest, h⟩
  rw [bind_eq_ok] at h
  rcases h with ⟨parameters, hparameters, h⟩
  rw [SqlArtifactDefinition.make, bind_unit_eq_ok, Except.ok.injEq] at h
  rw [← h.2]
  exact ⟨hdigest, compileSqlParameters_names (by simpa using areLogicalNames_nil) hparameters⟩

theorem compileDataset_compiled {connections : List (String × ConnectionDefinition)}
    {schemas : List (String × LogicalSchemaDefinition)} {source : DatasetSource}
    {dataset : DatasetDefinition}
    (hconnections : ∀ entry ∈ connections, entry.2.Compiled)
    (h : compileDataset sha256 connections schemas source = .ok dataset) : dataset.Compiled := by
  have hresolved := compileDataset_eq_ok h
  have hid : IsLogicalName source.datasetId := by
    rw [compileDataset, bind_eq_ok] at h
    rcases h with ⟨datasetId, hid, -⟩
    rw [← (logicalName_eq_ok.mp hid).2.2] at hid
    exact isLogicalName_of_logicalName hid
  refine ⟨hresolved.datasetId ▸ hid, hconnections _ hresolved.connection, ?_⟩
  have hlocator := hresolved.locator
  cases hsource : source.locator with
  | relation relation =>
    rw [hsource, compileDatasetLocator, bind_eq_ok] at hlocator
    rcases hlocator with ⟨locator, -, hlocator⟩
    rw [Except.ok.injEq] at hlocator
    rw [← hlocator]
    trivial
  | sqlArtifact artifact =>
    rw [hsource, compileDatasetLocator, bind_eq_ok] at hlocator
    rcases hlocator with ⟨artifact, hartifact, hlocator⟩
    rw [Except.ok.injEq] at hlocator
    rw [← hlocator]
    exact compileSqlArtifact_compiled hartifact

theorem compileRelationManifestReadiness_compiled {source : RelationManifestReadinessSource}
    {dataset : DatasetDefinition} {context : String} {manifest : RelationManifestReadiness}
    (h : compileRelationManifestReadiness source dataset context = .ok manifest) :
    manifest.Compiled := by
  rw [compileRelationManifestReadiness, bind_unit_eq_ok] at h
  replace h := h.2
  split at h
  · cases h
  · rw [bind_unit_eq_ok] at h
    replace h := h.2
    simp only [bind_eq_ok, ReadinessManifestColumns.make, refuseIf_eq_ok, not_not,
      Except.ok.injEq] at h
    rcases h with ⟨schema, hschema, name, hname, datasetId, hdatasetId, scopeDigest, hscopeDigest,
      batchId, hbatchId, state, hstate, businessDate, hbusinessDate, sourceCut, hsourceCut,
      datasetVersion, hdatasetVersion, completedAt, hcompletedAt, columns, ⟨-, hdistinct, rfl⟩, rfl⟩
    refine ⟨rfl, rfl, isPhysicalName_of_physicalName hschema, isPhysicalName_of_physicalName hname,
      ?_, hdistinct⟩
    simp only [ReadinessManifestColumns.values, List.forall_mem_cons]
    exact ⟨isPhysicalName_of_physicalName hdatasetId, isPhysicalName_of_physicalName hscopeDigest,
      isPhysicalName_of_physicalName hbatchId, isPhysicalName_of_physicalName hstate,
      isPhysicalName_of_physicalName hbusinessDate, isPhysicalName_of_physicalName hsourceCut,
      isPhysicalName_of_physicalName hdatasetVersion, isPhysicalName_of_physicalName hcompletedAt,
      by simp⟩

theorem compileReadiness_compiled {dataset : DatasetDefinition} {context : String}
    {source : ReadinessSource} {readiness : ReadinessDefinition}
    (h : compileReadiness sha256 dataset context source = .ok readiness) :
    readiness.Compiled := by
  cases source with
  | sqlArtifact source =>
    rw [compileReadiness, bind_unit_eq_ok] at h
    replace h := h.2
    rw [bind_eq_ok] at h
    rcases h with ⟨artifact, hartifact, h⟩
    rw [Except.ok.injEq] at h
    rw [← h]
    exact compileSqlArtifact_compiled hartifact
  | relationManifest source =>
    rw [compileReadiness, bind_eq_ok] at h
    rcases h with ⟨manifest, hmanifest, h⟩
    rw [Except.ok.injEq] at h
    rw [← h]
    exact compileRelationManifestReadiness_compiled hmanifest

theorem selectConsistencyDataset_ready {policy : ConsistencyDefinition} {direction : String}
    {dataset : DatasetDefinition} {scope : ScopeDefinition} {context : String}
    {item : ConsistencyDatasetDefinition}
    (hpolicy : ∀ own ∈ policy.datasets, own.readiness.Compiled)
    (h : selectConsistencyDataset policy direction dataset scope context = .ok item) :
    item.ReadyFor dataset := by
  rcases selectConsistencyDataset_eq_ok h with ⟨hmem, hid⟩
  refine ⟨hid, hpolicy item hmem, ?_⟩
  unfold selectConsistencyDataset at h
  split at h
  · cases h
  · split at h
    case h_1 artifact hartifact =>
      rw [bind_unit_eq_ok, Except.ok.injEq] at h
      intro manifest hmanifest
      rw [← h.2, hartifact] at hmanifest
      cases hmanifest
    case h_2 own hown =>
      rw [bind_unit_eq_ok, refuseIf_eq_ok, not_not, Except.ok.injEq] at h
      intro manifest hmanifest
      rw [← h.2, hown] at hmanifest
      cases hmanifest
      exact h.1

/-- The parts of a check the compiler checks in the check itself. -/
theorem compileCheck_own {datasets : List (String × DatasetDefinition)}
    {schemas : List (String × LogicalSchemaDefinition)}
    {namedScopes : List (String × ScopeDefinition)}
    {consistency : List (String × ConsistencyDefinition)} {source : CheckSource}
    {check : RowCheckDefinition}
    (h : compileCheck datasets schemas namedScopes consistency source = .ok check) :
    IsLogicalName check.checkId ∧ 1 ≤ check.revision ∧
      check.reference.datasetId ≠ check.target.datasetId ∧
      check.key ≠ [] ∧ AreLogicalNames check.key := by
  rw [compileCheck, bind_eq_ok] at h
  rcases h with ⟨checkId, hid, h⟩
  simp only [bind_unit_eq_ok, refuseIf_eq_ok, not_lt] at h
  rcases h with ⟨-, hrevision, -, h⟩
  rw [bind_eq_ok] at h
  rcases h with ⟨reference, -, h⟩
  rw [bind_eq_ok] at h
  rcases h with ⟨target, -, h⟩
  simp only [bind_unit_eq_ok, refuseIf_eq_ok] at h
  rcases h with ⟨hdistinct, -, h⟩
  rw [bind_eq_ok] at h
  rcases h with ⟨comparisonSchema, -, h⟩
  simp only [bind_unit_eq_ok] at h
  rcases h with ⟨-, -, h⟩
  rw [bind_eq_ok] at h
  rcases h with ⟨key, hkey, h⟩
  rw [bind_unit_eq_ok] at h
  replace h := h.2
  rw [bind_eq_ok] at h
  rcases h with ⟨declaredScope, -, h⟩
  rw [bind_unit_eq_ok] at h
  replace h := h.2
  rw [bind_eq_ok] at h
  rcases h with ⟨scope, -, h⟩
  simp only [bind_unit_eq_ok] at h
  rcases h with ⟨-, -, h⟩
  rw [bind_eq_ok] at h
  rcases h with ⟨selected, -, h⟩
  rw [bind_eq_ok] at h
  rcases h with ⟨resolved, -, h⟩
  split at h
  · cases h
  · rw [Except.ok.injEq] at h
    rw [← h]
    exact ⟨isLogicalName_of_logicalName hid, hrevision, hdistinct, orderedKnownFields_names hkey⟩

theorem compileSchema_digest {source : SchemaSource} {schema : LogicalSchemaDefinition}
    (h : compileSchema sha256 source = .ok schema) :
    isSha256Hex (String.ofList schema.logicalSchemaDigest) = true := by
  rw [compileSchema, bind_eq_ok] at h
  rcases h with ⟨schemaId, -, h⟩
  rw [bind_unit_eq_ok] at h
  replace h := h.2
  rw [bind_eq_ok] at h
  rcases h with ⟨fields, -, h⟩
  rw [bind_eq_ok] at h
  rcases h with ⟨canonical, -, h⟩
  rw [Except.ok.injEq] at h
  rw [← h]
  exact (Reporting.hexDigest sha256 (utf8Encode (canonicalSchemaJson canonical))).2

theorem compileScope_names {source : ScopeSource} {datasets : List (String × DatasetDefinition)}
    {context : String} {scope : ScopeDefinition} (hnamed : WellNamed datasets)
    (h : compileScope source datasets context = .ok scope) :
    AreLogicalNames (scope.parameters.map ScopeParameterDefinition.name) :=
  compileScopeParameters_names (by simpa using areLogicalNames_nil) (compileScope_eq_ok hnamed h).1

theorem map_eq_of_forall₂ {α β γ : Type} {related : α → β → Prop} {f : α → γ} {g : β → γ}
    (hsame : ∀ a b, related a b → f a = g b) {as : List α} {bs : List β}
    (h : List.Forall₂ related as bs) : as.map f = bs.map g := by
  induction h with
  | nil => rfl
  | cons hab _ ih => rw [List.map_cons, List.map_cons, hsame _ _ hab, ih]

theorem Dictionary.names {Source Value : Type} {name : Source → String}
    {compile : Source → Except Refusal Value} {sources : List Source}
    {values : List (String × Value)} (h : Dictionary name compile sources values) :
    sources.map name = values.map Prod.fst :=
  map_eq_of_forall₂ (fun _ _ hpair => hpair.1) h.entries

section Contracts

variable {source : LoadedContractSource} {config : LoadedContractConfig}
  {connections : List (String × ConnectionDefinition)}
  {schemas : List (String × LogicalSchemaDefinition)}
  {datasets : List (String × DatasetDefinition)}
  {namedScopes : List (String × ScopeDefinition)}
  {consistency : List (String × ConsistencyDefinition)}
  {checks : List (String × RowCheckDefinition)} {check : RowCheckDefinition}

theorem ContractResolved.datasets_compiled
    (h : ContractResolved sha256 source config connections schemas datasets namedScopes
      consistency checks) : ∀ entry ∈ datasets, entry.2.Compiled := by
  have hconnections : ∀ entry ∈ connections, entry.2.Compiled := by
    intro entry hentry
    rcases h.connectionsCompiled.exists_source hentry with ⟨own, -, -, hcompiled⟩
    exact compileConnection_compiled hcompiled
  intro entry hentry
  rcases h.datasetsCompiled.exists_source hentry with ⟨own, -, -, hcompiled⟩
  exact compileDataset_compiled hconnections hcompiled

theorem ContractResolved.policies_compiled
    (h : ContractResolved sha256 source config connections schemas datasets namedScopes
      consistency checks) :
    ∀ entry ∈ consistency, ∀ item ∈ entry.2.datasets, item.readiness.Compiled := by
  intro entry hentry item hitem
  rcases h.consistencyCompiled.exists_source hentry with ⟨own, -, -, hcompiled⟩
  have hitems := (compileConsistency_eq_ok (wellNamed_of_dictionary h.datasetsCompiled)
    hcompiled).datasets
  rcases forall₂_mem_left hitems.flip hitem with ⟨itemSource, -, hresolved⟩
  rcases hresolved.readiness with ⟨dataset, -, hreadiness⟩
  exact compileReadiness_compiled hreadiness

/-- A check of a compiled contract has what the compiler guarantees. -/
theorem ContractResolved.check_compiledParts
    (h : ContractResolved sha256 source config connections schemas datasets namedScopes
      consistency checks) (hcheck : check ∈ config.checks) : check.Compiled := by
  rw [h.configChecks] at hcheck
  rcases mem_sortedItems.mp hcheck with ⟨name, hmem⟩
  rcases h.checksCompiled.exists_source hmem with ⟨own, -, -, hcompiled⟩
  have hresolved := compileCheck_eq_ok hcompiled
  have hnamed := wellNamed_of_dictionary h.datasetsCompiled
  rcases compileCheck_own hcompiled with ⟨hid, hrevision, hdistinct, hkey⟩
  rcases h.schemasCompiled.exists_source hresolved.comparisonSchema with
    ⟨schemaSource, -, -, hschema⟩
  have hscope : AreLogicalNames (check.scope.parameters.map ScopeParameterDefinition.name) := by
    rcases hresolved.scope with ⟨declaredScope, hdeclared, hordered⟩
    rw [orderCheckScope_parameters hordered]
    unfold resolveCheckScope at hdeclared
    split at hdeclared
    · exact compileScope_names hnamed hdeclared
    · rcases h.namedScopesCompiled.exists_source (requiredReference_mem hdeclared) with
        ⟨entry, -, -, hentry⟩
      exact compileScope_names hnamed hentry
    · cases hdeclared
  rcases hresolved.consistency with ⟨selected, hselected, hconsistency⟩
  have hpolicy := h.policies_compiled _ hselected
  rw [selectConsistency, bind_eq_ok] at hconsistency
  rcases hconsistency with ⟨referenceItem, hreference, hconsistency⟩
  rw [bind_eq_ok] at hconsistency
  rcases hconsistency with ⟨targetItem, htarget, hconsistency⟩
  rw [Except.ok.injEq] at hconsistency
  exact
    { checkId := hid
      revision := hrevision
      reference := h.datasets_compiled _ hresolved.reference
      target := h.datasets_compiled _ hresolved.target
      datasets := hdistinct
      schemaDigest := compileSchema_digest hschema
      key := hkey
      scope := hscope
      consistency := ⟨referenceItem, targetItem, by rw [← hconsistency],
        selectConsistencyDataset_ready hpolicy hreference,
        selectConsistencyDataset_ready hpolicy htarget⟩ }

end Contracts

/-- Every check of every accepted contract has what the compiler guarantees. -/
theorem compileContract_check {source : LoadedContractSource} {config : LoadedContractConfig}
    (h : compileContract sha256 source = .ok config) {check : RowCheckDefinition}
    (hcheck : check ∈ config.checks) : check.Compiled ∧ check.Declared := by
  rcases compileContract_eq_ok h with ⟨connections, schemas, datasets, namedScopes, consistency,
    checks, hresolved⟩
  exact ⟨hresolved.check_compiledParts hcheck, hresolved.check_declared hcheck⟩

/-- The checks of an accepted contract have distinct names. -/
theorem compileContract_checkIds {source : LoadedContractSource} {config : LoadedContractConfig}
    (h : compileContract sha256 source = .ok config) :
    (config.checks.map RowCheckDefinition.checkId).Nodup := by
  rcases compileContract_eq_ok h with ⟨connections, schemas, datasets, namedScopes, consistency,
    checks, hresolved⟩
  have hsame : checks.map Prod.fst = (checks.map Prod.snd).map RowCheckDefinition.checkId := by
    rw [List.map_map]
    apply List.map_congr_left
    intro entry hentry
    rcases hresolved.checksCompiled.exists_source hentry with ⟨own, -, hname, hcompiled⟩
    rw [← hname]
    exact (compileCheck_eq_ok hcompiled).checkId.symm
  have hnames : (checks.map Prod.fst).Nodup := by
    rw [← hresolved.checksCompiled.names]
    exact hresolved.checksCompiled.distinct
  rw [hresolved.configChecks]
  have hperm : ((sortedItems checks).map Prod.snd).map RowCheckDefinition.checkId
      |>.Perm (checks.map Prod.fst) := by
    rw [hsame]
    exact ((List.perm_insertionSort _ checks).map _).map _
  exact hperm.nodup_iff.mpr hnames

end ForensicData.Contracts
