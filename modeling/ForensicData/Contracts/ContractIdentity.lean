/-
ForensicData.Contracts.ContractIdentity — the identity of a check in a contract.

The preimages of two compiled checks are equal exactly when the checks agree,
and a check that refers to the same definitions in two contracts keeps its
preimage, whatever else the contracts define (`contract_identity`).
-/
import ForensicData.Contracts.EvidenceTheorems
import ForensicData.Contracts.Resolution

namespace ForensicData.Contracts

open ForensicData.Canonical
open ForensicData.Lib

variable {sha256 : Sha256}

/-! ## References of a check -/

/-- The dataset is one of the two sides of the check. -/
def CheckSource.Compares (check : CheckSource) (datasetId : String) : Prop :=
  datasetId = check.referenceRef ∨ datasetId = check.targetRef

/-- What a check refers to in one contract also stands in another one, up to
the secrets of its connections and the other datasets of its consistency
policy. -/
structure KeepsReferences (left right : LoadedContractSource) (check : CheckSource) : Prop where
  datasets : ∀ dataset ∈ left.datasets, check.Compares dataset.datasetId →
    dataset ∈ right.datasets
  connections : ∀ dataset ∈ left.datasets, check.Compares dataset.datasetId →
    ∀ connection ∈ left.connections, connection.connectionId = dataset.connectionRef →
      ∃ secretRef, { connection with secretRef } ∈ right.connections
  schemas : ∀ schema ∈ left.schemas,
    (schema.schemaId = check.comparisonSchemaRef ∨
      ∃ dataset ∈ left.datasets, check.Compares dataset.datasetId ∧
        schema.schemaId = dataset.logicalSchemaRef) →
    schema ∈ right.schemas
  namedScopes : ∀ scope ∈ left.namedScopes, check.scopeRef = some scope.1 →
    scope ∈ right.namedScopes
  consistency : ∀ policy ∈ left.consistency, policy.consistencyId = check.consistencyRef →
    ∃ items, { policy with datasets := items } ∈ right.consistency ∧
      ∀ item ∈ policy.datasets, check.Compares item.datasetRef → item ∈ items

/-! ## Two contracts -/

section Contracts

variable {leftSource rightSource : LoadedContractSource} {left right : LoadedContractConfig}
  {connections connections' : List (String × ConnectionDefinition)}
  {schemas schemas' : List (String × LogicalSchemaDefinition)}
  {datasets datasets' : List (String × DatasetDefinition)}
  {namedScopes namedScopes' : List (String × ScopeDefinition)}
  {consistency consistency' : List (String × ConsistencyDefinition)}
  {checks checks' : List (String × RowCheckDefinition)}
  {declared : CheckSource} {check check' : RowCheckDefinition}

/-- The parameters of a compiled check are declared. -/
theorem ContractResolved.check_declared
    (h : ContractResolved sha256 leftSource left connections schemas datasets namedScopes
      consistency checks) (hcheck : check ∈ left.checks) : check.Declared := by
  rw [h.configChecks] at hcheck
  obtain ⟨name, hmem⟩ := mem_sortedItems.mp hcheck
  obtain ⟨source, -, -, hcompiled⟩ := h.checksCompiled.exists_source hmem
  have hresolved := compileCheck_eq_ok hcompiled
  have hnamed := wellNamed_of_dictionary h.datasetsCompiled
  obtain ⟨referenceSource, -, -, hreference⟩ :=
    h.datasetsCompiled.exists_source hresolved.reference
  obtain ⟨targetSource, -, -, htarget⟩ := h.datasetsCompiled.exists_source hresolved.target
  obtain ⟨declaredScope, hscope, hordered⟩ := hresolved.scope
  obtain ⟨selected, hselected, hconsistency⟩ := hresolved.consistency
  obtain ⟨policySource, -, -, hpolicy⟩ := h.consistencyCompiled.exists_source hselected
  have hitems := (compileConsistency_eq_ok hnamed hpolicy).datasets
  obtain ⟨referenceItem, hreferenceItem, -, targetItem, htargetItem, -, hpair⟩ :=
    selectConsistency_eq_ok hconsistency
  have hready : ∀ item ∈ selected.datasets, item.readiness.Declared := by
    intro item hitem
    obtain ⟨itemSource, -, hresolvedItem⟩ := forall₂_mem_left hitems.flip hitem
    obtain ⟨dataset, -, hreadiness⟩ := hresolvedItem.readiness
    exact compileReadiness_declared hreadiness
  refine
    { reference := compileDatasetLocator_declared (compileDataset_eq_ok hreference).locator
      target := compileDatasetLocator_declared (compileDataset_eq_ok htarget).locator
      scope := ?_
      readiness := ?_ }
  · rw [orderCheckScope_parameters hordered]
    unfold resolveCheckScope at hscope
    split at hscope
    · exact compileScope_declared hnamed hscope
    · obtain ⟨entry, -, -, hentry⟩ :=
        h.namedScopesCompiled.exists_source (requiredReference_mem hscope)
      exact compileScope_declared hnamed hentry
    · cases hscope
  · intro item hitem
    rw [hpair] at hitem
    simp only [List.mem_cons, List.not_mem_nil, or_false] at hitem
    rcases hitem with rfl | rfl
    · exact hready item hreferenceItem
    · exact hready item htargetItem

/-- The check of a name is compiled from the definition of that name. -/
theorem ContractResolved.check_compiled
    (h : ContractResolved sha256 leftSource left connections schemas datasets namedScopes
      consistency checks) (hcheck : check ∈ left.checks) (hdeclared : declared ∈ leftSource.checks)
    (hid : check.checkId = declared.checkId) :
    CheckResolved datasets schemas namedScopes consistency declared check := by
  rw [h.configChecks] at hcheck
  obtain ⟨name, hmem⟩ := mem_sortedItems.mp hcheck
  obtain ⟨source, hsource, hname, hcompiled⟩ := h.checksCompiled.exists_source hmem
  have hresolved := compileCheck_eq_ok hcompiled
  have hsame : source = declared :=
    List.inj_on_of_nodup_map h.checksCompiled.distinct hsource hdeclared
      (hresolved.checkId.symm.trans hid)
  rw [← hsame]
  exact hresolved

/-- The readiness of a dataset depends on its connection alone. -/
theorem compileReadiness_congr {dataset dataset' : DatasetDefinition}
    (hagree : ConnectionsAgree dataset.connection dataset'.connection) (context : String)
    (source : ReadinessSource) :
    compileReadiness sha256 dataset context source =
      compileReadiness sha256 dataset' context source := by
  cases source with
  | sqlArtifact source => simp only [compileReadiness, hagree.adapter]
  | relationManifest source =>
    simp only [compileReadiness, compileRelationManifestReadiness, hagree.adapter,
      hagree.connectionId]

variable (hleft : ContractResolved sha256 leftSource left connections schemas datasets namedScopes
    consistency checks)
  (hright : ContractResolved sha256 rightSource right connections' schemas' datasets' namedScopes'
    consistency' checks')
  (hkeeps : KeepsReferences leftSource rightSource declared)

include hleft hright hkeeps

/-- A side of the check is compiled to the same dataset, up to secrets. -/
theorem compared_datasets_agree {reference : String} {dataset dataset' : DatasetDefinition}
    (hcompares : declared.Compares reference) (hmem : (reference, dataset) ∈ datasets)
    (hmem' : (reference, dataset') ∈ datasets') :
    DatasetsAgree dataset dataset' ∧ dataset.logicalSchema = dataset'.logicalSchema := by
  obtain ⟨source, hsource, rfl, hcompile⟩ := hleft.datasetsCompiled.exists_source hmem
  have hcompile' := hright.datasetsCompiled.compile_eq
    (hkeeps.datasets source hsource hcompares) hmem'
  have hresolved := compileDataset_eq_ok hcompile
  have hresolved' := compileDataset_eq_ok hcompile'
  have hconnection : ConnectionsAgree dataset.connection dataset'.connection := by
    obtain ⟨connection, hmemConnection, hname, hconnection⟩ :=
      hleft.connectionsCompiled.exists_source hresolved.connection
    obtain ⟨secretRef, hother⟩ :=
      hkeeps.connections source hsource hcompares connection hmemConnection hname
    have hconnection' := hright.connectionsCompiled.compile_eq hother
      (show (connection.connectionId, dataset'.connection) ∈ connections' from
        hname ▸ hresolved'.connection)
    exact compileConnection_agree hconnection hconnection'
  have hschema : dataset.logicalSchema = dataset'.logicalSchema := by
    obtain ⟨schema, hmemSchema, hname, hschema⟩ :=
      hleft.schemasCompiled.exists_source hresolved.logicalSchema
    have hkept := hkeeps.schemas schema hmemSchema (.inr ⟨source, hsource, hcompares, hname⟩)
    have hschema' := hright.schemasCompiled.compile_eq hkept
      (hname ▸ hresolved'.logicalSchema)
    rw [hschema, Except.ok.injEq] at hschema'
    exact hschema'
  have hlocator : dataset.locator = dataset'.locator := by
    have h := hresolved.locator
    rw [compileDatasetLocator_congr hconnection.adapter, hresolved'.locator, Except.ok.injEq] at h
    exact h.symm
  have hprojection : dataset.projection = dataset'.projection := by
    have h := hresolved.projection
    rw [hresolved'.projection, Except.ok.injEq] at h
    exact h.symm
  refine ⟨?_, hschema⟩
  exact
    { datasetId := hresolved.datasetId.trans hresolved'.datasetId.symm
      connection := hconnection
      grain := hresolved.grain.trans hresolved'.grain.symm
      locator := hlocator ▸ LocatorsAgree.refl _
      logicalSchema := hschema ▸ ⟨rfl, rfl⟩
      projection := hprojection }

theorem compared_schema_eq (hresolved : CheckResolved datasets schemas namedScopes consistency
      declared check)
    (hresolved' : CheckResolved datasets' schemas' namedScopes' consistency' declared check') :
    check.comparisonSchema = check'.comparisonSchema := by
  obtain ⟨schema, hmem, hname, hcompile⟩ :=
    hleft.schemasCompiled.exists_source hresolved.comparisonSchema
  have hcompile' := hright.schemasCompiled.compile_eq
    (hkeeps.schemas schema hmem (.inl hname)) (hname ▸ hresolved'.comparisonSchema)
  rw [hcompile, Except.ok.injEq] at hcompile'
  exact hcompile'

/-- A scope is compiled alike in both contracts. -/
theorem declared_scope_eq {context : String} {scope scope' : ScopeDefinition}
    (h : resolveCheckScope declared datasets namedScopes context = .ok scope)
    (h' : resolveCheckScope declared datasets' namedScopes' context = .ok scope') :
    scope = scope' := by
  have hnamed := wellNamed_of_dictionary hleft.datasetsCompiled
  have hnamed' := wellNamed_of_dictionary hright.datasetsCompiled
  unfold resolveCheckScope at h h'
  split at h
  case h_1 inlineScope _ hinline =>
    simp only [hinline] at h'
    exact compileScope_unique hnamed hnamed' h h'
  case h_2 scopeRef hinline href =>
    simp only [hinline, href] at h'
    obtain ⟨entry, hentry, hname, hcompile⟩ :=
      hleft.namedScopesCompiled.exists_source (requiredReference_mem h)
    have hkept := hkeeps.namedScopes entry hentry (href.trans (congrArg some hname.symm))
    have hcompile' := hright.namedScopesCompiled.compile_eq hkept
      (show (entry.1, scope') ∈ namedScopes' from hname ▸ requiredReference_mem h')
    exact compileScope_unique hnamed hnamed' hcompile hcompile'
  case h_3 => cases h

/-- An item of the policy for a side of the check, in both contracts. -/
theorem compared_item_agree {policy policy' : ConsistencySource}
    {selected selected' : ConsistencyDefinition}
    {item item' : ConsistencyDatasetDefinition} (hid : policy.consistencyId = policy'.consistencyId)
    (hitems : ∀ source ∈ policy.datasets, declared.Compares source.datasetRef →
      source ∈ policy'.datasets)
    (hselected : ConsistencyResolved sha256 datasets policy selected)
    (hselected' : ConsistencyResolved sha256 datasets' policy' selected')
    (hmem : item ∈ selected.datasets) (hmem' : item' ∈ selected'.datasets)
    (hcompares : declared.Compares item.datasetId) (hname : item.datasetId = item'.datasetId) :
    ConsistencyDatasetsAgree item item' := by
  obtain ⟨source, hsource, hresolved⟩ := forall₂_mem_left hselected.datasets.flip hmem
  have hcompares' : declared.Compares source.datasetRef := hresolved.datasetId ▸ hcompares
  -- The definition of the item is kept, and its name selects it in the other policy.
  obtain ⟨found, hfound, hother⟩ := forall₂_mem_left hselected'.datasets
    (hitems source hsource hcompares')
  have hfoundId : found.datasetId = item'.datasetId := by
    rw [hother.datasetId, ← hresolved.datasetId, hname]
  have hsame : found = item' := List.inj_on_of_nodup_map hselected'.distinct hfound hmem' hfoundId
  subst hsame
  obtain ⟨dataset, hdataset, hreadiness⟩ := hresolved.readiness
  obtain ⟨dataset', hdataset', hreadiness'⟩ := hother.readiness
  have hagree := (compared_datasets_agree hleft hright hkeeps hcompares' hdataset hdataset').1
  rw [compileReadiness_congr hagree.connection, hid, hreadiness', Except.ok.injEq] at hreadiness
  exact
    { datasetId := hname
      readiness := hreadiness ▸ ReadinessAgrees.refl _
      stableRead := Option.some.inj (hresolved.stableRead.symm.trans hother.stableRead) }

/-- The consistency settings of the check are those of its two sides. -/
theorem compared_consistency_agree
    (hresolved : CheckResolved datasets schemas namedScopes consistency declared check)
    (hresolved' : CheckResolved datasets' schemas' namedScopes' consistency' declared check') :
    ConsistencyAgrees check.consistency check'.consistency := by
  have hnamed := wellNamed_of_dictionary hleft.datasetsCompiled
  have hnamed' := wellNamed_of_dictionary hright.datasetsCompiled
  obtain ⟨selected, hmem, hselect⟩ := hresolved.consistency
  obtain ⟨selected', hmem', hselect'⟩ := hresolved'.consistency
  obtain ⟨policy, hpolicy, hname, hcompile⟩ := hleft.consistencyCompiled.exists_source hmem
  obtain ⟨items, hkept, hitems⟩ := hkeeps.consistency policy hpolicy hname
  have hcompile' := hright.consistencyCompiled.compile_eq hkept
    (show (policy.consistencyId, selected') ∈ consistency' from hname ▸ hmem')
  have hid : policy.consistencyId =
      ({ policy with datasets := items } : ConsistencySource).consistencyId := rfl
  have hselected := compileConsistency_eq_ok hnamed hcompile
  have hselected' := compileConsistency_eq_ok hnamed' hcompile'
  obtain ⟨reference, hreference, hreferenceId, target, htarget, htargetId, hpair⟩ :=
    selectConsistency_eq_ok hselect
  obtain ⟨reference', hreference', hreferenceId', target', htarget', htargetId', hpair'⟩ :=
    selectConsistency_eq_ok hselect'
  have hreferenceRef : reference.datasetId = declared.referenceRef :=
    hreferenceId.trans (hnamed _ hresolved.reference)
  have hreferenceRef' : reference'.datasetId = declared.referenceRef :=
    hreferenceId'.trans (hnamed' _ hresolved'.reference)
  have htargetRef : target.datasetId = declared.targetRef :=
    htargetId.trans (hnamed _ hresolved.target)
  have htargetRef' : target'.datasetId = declared.targetRef :=
    htargetId'.trans (hnamed' _ hresolved'.target)
  have hreferenceAgree := compared_item_agree hleft hright hkeeps hid hitems hselected hselected'
    hreference hreference' (.inl hreferenceRef) (hreferenceRef.trans hreferenceRef'.symm)
  have htargetAgree := compared_item_agree hleft hright hkeeps hid hitems hselected hselected'
    htarget htarget' (.inr htargetRef) (htargetRef.trans htargetRef'.symm)
  rw [hpair, hpair']
  exact
    { alignmentFields := hselected.alignmentFields.trans hselected'.alignmentFields.symm
      datasets := .cons hreferenceAgree (.cons htargetAgree .nil)
      lateArrivals := rfl
      minimumEvidence := Option.some.inj
        (hselected.minimumEvidence.symm.trans hselected'.minimumEvidence) }

theorem checks_agree
    (hresolved : CheckResolved datasets schemas namedScopes consistency declared check)
    (hresolved' : CheckResolved datasets' schemas' namedScopes' consistency' declared check') :
    ChecksAgree left.version check right.version check' := by
  have hreference := (compared_datasets_agree hleft hright hkeeps (.inl rfl) hresolved.reference
    hresolved'.reference).1
  have htarget := (compared_datasets_agree hleft hright hkeeps (.inr rfl) hresolved.target
    hresolved'.target).1
  have hscope : check.scope = check'.scope := by
    obtain ⟨declaredScope, hdeclared, hordered⟩ := hresolved.scope
    obtain ⟨declaredScope', hdeclared', hordered'⟩ := hresolved'.scope
    have hsame := declared_scope_eq hleft hright hkeeps hdeclared hdeclared'
    subst hsame
    unfold orderCheckScope at hordered hordered'
    rw [hreference.datasetId, htarget.datasetId, hordered', Except.ok.injEq] at hordered
    exact hordered.symm
  have hschema := compared_schema_eq hleft hright hkeeps hresolved hresolved'
  exact
    { configVersion := by
        rw [hleft.configVersion, hright.configVersion, hleft.version, hright.version]
      assurancePolicy := Option.some.inj
        (hresolved.assurancePolicy.symm.trans hresolved'.assurancePolicy)
      reference := hreference
      target := htarget
      key := hresolved.key.trans hresolved'.key.symm
      comparisonSchema := hschema ▸ ⟨rfl, rfl⟩
      parameters := congrArg ScopeDefinition.parameters hscope
      bindings := congrArg ScopeDefinition.bindings hscope
      nullPartition := congrArg ScopeDefinition.nullPartition hscope
      consistency := compared_consistency_agree hleft hright hkeeps hresolved hresolved' }

end Contracts

/-- A compiled check has the name of a declared one. -/
theorem exists_declared {source : LoadedContractSource} {config : LoadedContractConfig}
    (h : compileContract sha256 source = .ok config) {check : RowCheckDefinition}
    (hcheck : check ∈ config.checks) : ∃ declared ∈ source.checks,
      check.checkId = declared.checkId := by
  obtain ⟨connections, schemas, datasets, namedScopes, consistency, checks, hresolved⟩ :=
    compileContract_eq_ok h
  rw [hresolved.configChecks] at hcheck
  obtain ⟨name, hmem⟩ := mem_sortedItems.mp hcheck
  obtain ⟨declared, hdeclared, -, hcompiled⟩ := hresolved.checksCompiled.exists_source hmem
  exact ⟨declared, hdeclared, (compileCheck_eq_ok hcompiled).checkId⟩

/-! ## The identity of a check -/

/-- The text whose digest identifies a check revision. -/
def contractPreimage (config : LoadedContractConfig) (check : RowCheckDefinition) : String :=
  canonicalSemanticJson (contractSemanticValue config.version check)

/-- The preimages of two compiled checks are equal exactly when the checks
agree, so a difference in any part of `ChecksAgree` changes the preimage; a
check whose referenced definitions are kept keeps its preimage. -/
theorem contract_identity {leftSource rightSource : LoadedContractSource}
    {left right : LoadedContractConfig} (hleft : compileContract sha256 leftSource = .ok left)
    (hright : compileContract sha256 rightSource = .ok right) :
    (∀ check ∈ left.checks, ∀ check' ∈ right.checks,
      (contractPreimage left check = contractPreimage right check' ↔
        ChecksAgree left.version check right.version check')) ∧
    (∀ declared ∈ leftSource.checks, declared ∈ rightSource.checks →
      KeepsReferences leftSource rightSource declared →
      ∀ check ∈ left.checks, check.checkId = declared.checkId →
      ∀ check' ∈ right.checks, check'.checkId = declared.checkId →
        contractPreimage left check = contractPreimage right check') := by
  obtain ⟨connections, schemas, datasets, namedScopes, consistency, checks, hresolved⟩ :=
    compileContract_eq_ok hleft
  obtain ⟨connections', schemas', datasets', namedScopes', consistency', checks', hresolved'⟩ :=
    compileContract_eq_ok hright
  have hiff : ∀ check ∈ left.checks, ∀ check' ∈ right.checks,
      (contractPreimage left check = contractPreimage right check' ↔
        ChecksAgree left.version check right.version check') := by
    intro check hcheck check' hcheck'
    exact preimage_eq_iff (hresolved.check_declared hcheck) (hresolved'.check_declared hcheck')
  refine ⟨hiff, ?_⟩
  intro declared hdeclared hdeclared' hkeeps check hcheck hid check' hcheck' hid'
  exact (hiff check hcheck check' hcheck').mpr (checks_agree hresolved hresolved' hkeeps
    (hresolved.check_compiled hcheck hdeclared hid)
    (hresolved'.check_compiled hcheck' hdeclared' hid'))

/-- The contract of `ordersContract` with other secrets, budgets, evidence and
order of definitions, and with one dataset more. -/
def movedOrdersContract : LoadedContractSource :=
  let source := ordersContract "id"
  { source with
    connections := source.connections.reverse.map fun connection =>
      { connection with secretRef := "vault" }
    schemas := source.schemas.reverse
    datasets := sampleDataset "orders_archive" "mart" :: source.datasets.reverse
    execution := { source.execution with maxQueries := 99 }
    evidence := { source.evidence with fields := [], unspecifiedFields := "omit" } }

theorem movedOrders_keepsReferences : ∀ declared ∈ (ordersContract "id").checks,
    KeepsReferences (ordersContract "id") movedOrdersContract declared := by
  intro declared hdeclared
  simp only [ordersContract, List.mem_singleton] at hdeclared
  subst hdeclared
  refine ⟨?_, ?_, ?_, ?_, ?_⟩
  · intro dataset hdataset _
    simp only [movedOrdersContract, List.mem_cons, List.mem_reverse]
    exact .inr hdataset
  · intro dataset _ _ connection hconnection _
    refine ⟨"vault", ?_⟩
    simp only [movedOrdersContract, List.mem_map, List.mem_reverse]
    exact ⟨connection, hconnection, rfl⟩
  · intro schema hschema _
    exact List.mem_reverse.mpr hschema
  · intro scope hscope _
    exact hscope
  · intro policy hpolicy _
    exact ⟨policy.datasets, hpolicy, fun item hitem _ => hitem⟩

/-- The two contracts identify their check alike. -/
theorem contract_identity_moved :
    ∃ left right, compileContract constantDigest (ordersContract "id") = .ok left ∧
      compileContract constantDigest movedOrdersContract = .ok right ∧
      ∀ check ∈ left.checks, ∀ check' ∈ right.checks,
        contractPreimage left check = contractPreimage right check' ∧
          ChecksAgree left.version check right.version check' := by
  obtain ⟨left, hleft⟩ := exists_eq_ok
    (show (compileContract constantDigest (ordersContract "id")).isOk = true by decide +kernel)
  obtain ⟨right, hright⟩ := exists_eq_ok
    (show (compileContract constantDigest movedOrdersContract).isOk = true by decide +kernel)
  refine ⟨left, right, hleft, hright, ?_⟩
  intro check hcheck check' hcheck'
  obtain ⟨hiff, hkept⟩ := contract_identity hleft hright
  obtain ⟨declared, hdeclared, hid⟩ := exists_declared hleft hcheck
  obtain ⟨declared', hdeclared', hid'⟩ := exists_declared hright hcheck'
  have hsame : declared' = declared := by
    simp only [movedOrdersContract, ordersContract, List.mem_singleton] at hdeclared hdeclared'
    rw [hdeclared, hdeclared']
  subst hsame
  have hequal := hkept declared' hdeclared hdeclared'
    (movedOrders_keepsReferences declared' hdeclared) check hcheck hid check' hcheck' hid'
  exact ⟨hequal, (hiff check hcheck check' hcheck').mp hequal⟩

end ForensicData.Contracts
