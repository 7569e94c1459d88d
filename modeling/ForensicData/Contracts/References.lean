/-
ForensicData.Contracts.References — what a compiled contract is made from.

The compiler keeps the names of the document, so an entity that refers to
another one by its name is compiled from the one definition of that name. Each
result of the compiler is given by the source definitions it was read from.
-/
import ForensicData.Contracts.Compiler

namespace ForensicData.Contracts

open ForensicData.Canonical
open ForensicData.Lib

/-! ## Names the compiler keeps -/

theorem logicalName_eq_ok {value context name : String} :
    logicalName value context = .ok name ↔
      validateText value context = .ok () ∧ isBlank value = false ∧ value = name := by
  unfold logicalName
  simp only [bind_unit_eq_ok, refuseIf_eq_ok, Bool.not_eq_true, Except.ok.injEq]

theorem uniquePairsFrom_eq_ok {Value : Type} {entityName : String}
    {result pairs collected : List (String × Value)}
    (h : uniquePairsFrom entityName collected pairs = .ok result)
    (hcollected : (collected.map Prod.fst).Nodup) :
    result = collected ++ pairs ∧ (result.map Prod.fst).Nodup := by
  induction pairs generalizing collected with
  | nil =>
    rw [uniquePairsFrom, Except.ok.injEq] at h
    subst h
    exact ⟨(List.append_nil _).symm, hcollected⟩
  | cons pair pairs ih =>
    rw [uniquePairsFrom, bind_eq_ok] at h
    obtain ⟨name, hname, h⟩ := h
    rw [bind_unit_eq_ok, refuseIf_eq_ok] at h
    obtain ⟨hfresh, h⟩ := h
    obtain ⟨-, -, rfl⟩ := logicalName_eq_ok.mp hname
    have hnodup : ((collected ++ [(pair.1, pair.2)]).map Prod.fst).Nodup := by
      rw [List.map_append, List.map_cons, List.map_nil, List.nodup_append]
      refine ⟨hcollected, by simp, fun a ha b hb hab => ?_⟩
      rw [List.mem_singleton] at hb
      subst hab hb
      exact hfresh ha
    obtain ⟨hresult, hnodup⟩ := ih h hnodup
    refine ⟨?_, hnodup⟩
    rw [hresult, List.append_assoc]
    rfl

/-- Distinct pairs enter a dictionary as they are. -/
theorem uniquePairs_eq_ok {Value : Type} {entityName : String} {result pairs : List (String × Value)}
    (h : uniquePairs pairs entityName = .ok result) :
    result = pairs ∧ (pairs.map Prod.fst).Nodup := by
  obtain ⟨hresult, hnodup⟩ := uniquePairsFrom_eq_ok h List.nodup_nil
  rw [List.nil_append] at hresult
  exact ⟨hresult, hresult ▸ hnodup⟩

theorem requiredReference_mem {Value : Type} {values : List (String × Value)}
    {reference context : String} {value : Value}
    (h : requiredReference values reference context = .ok value) : (reference, value) ∈ values := by
  rw [requiredReference, bind_eq_ok] at h
  obtain ⟨name, hname, h⟩ := h
  obtain ⟨-, -, rfl⟩ := logicalName_eq_ok.mp hname
  split at h
  case h_1 found hlookup =>
    rw [Except.ok.injEq] at h
    subst h
    obtain ⟨l, r, hvalues, -⟩ := List.lookup_eq_some_iff.mp hlookup
    rw [hvalues]
    exact List.mem_append_right _ List.mem_cons_self
  case h_2 => cases h

theorem fieldSchemaMake_kept {name : String} {logicalType : LogicalType} {nullable : Bool}
    {parameters : FieldParameters} {normalization : Normalization} {field : FieldSchema}
    (h : FieldSchema.make name logicalType nullable parameters normalization = .ok field) :
    field.name = name ∧ field.nullable = nullable := by
  unfold FieldSchema.make at h
  split at h
  · rw [Except.ok.injEq] at h
    rw [← h]
    exact ⟨rfl, rfl⟩
  · cases h

theorem rewrapSchemaError_eq_ok {Value : Type} {context : String} {x : Except Refusal Value}
    {value : Value} (h : rewrapSchemaError context x = .ok value) : x = .ok value := by
  cases x with
  | ok found => exact h
  | error refusal =>
    unfold rewrapSchemaError at h
    dsimp only at h
    split at h <;> cases h

theorem timestampFieldSchema_kept {name context : String} {source : LogicalTypeSource}
    {nullable : Bool} {logicalType : LogicalType} {field : FieldSchema}
    (h : timestampFieldSchema name context source nullable logicalType = .ok field) :
    field.name = name ∧ field.nullable = nullable := by
  unfold timestampFieldSchema at h
  split at h
  · rw [bind_eq_ok] at h
    obtain ⟨_, -, h⟩ := h
    exact fieldSchemaMake_kept h
  · cases h

/-- A field has the name and the nullability it is compiled with. -/
theorem fieldSchema_kept {name : String} {source : LogicalTypeSource} {nullable : Bool}
    {context : String} {field : FieldSchema}
    (h : fieldSchema name source nullable context = .ok field) :
    field.name = name ∧ field.nullable = nullable := by
  replace h := rewrapSchemaError_eq_ok h
  split at h
  · split at h
    · rw [bind_eq_ok] at h
      obtain ⟨_, -, h⟩ := h
      exact fieldSchemaMake_kept h
    · cases h
  · exact timestampFieldSchema_kept h
  · exact timestampFieldSchema_kept h
  · rw [bind_unit_eq_ok] at h
    replace h := h.2
    split at h
    · cases h
    · exact fieldSchemaMake_kept h

theorem compileFields_names {schemaId : String} {compiled fields : List FieldSchema}
    {sources : List SchemaFieldSource} (h : compileFields schemaId compiled sources = .ok fields) :
    fields.map FieldSchema.name =
      compiled.map FieldSchema.name ++ sources.map SchemaFieldSource.name := by
  induction sources generalizing compiled with
  | nil =>
    rw [compileFields, Except.ok.injEq] at h
    simp [h]
  | cons source sources ih =>
    rw [compileFields, bind_eq_ok] at h
    obtain ⟨name, hname, h⟩ := h
    obtain ⟨-, -, rfl⟩ := logicalName_eq_ok.mp hname
    simp only [bind_unit_eq_ok] at h
    obtain ⟨-, -, -, h⟩ := h
    rw [bind_eq_ok] at h
    obtain ⟨field, hfield, h⟩ := h
    rw [ih h, List.map_append, List.map_cons, List.map_nil, (fieldSchema_kept hfield).1,
      List.append_assoc]
    rfl

variable {sha256 : Sha256}

/-- A compiled schema has the fields its source names. -/
theorem compileSchema_names {source : SchemaSource} {schema : LogicalSchemaDefinition}
    (h : compileSchema sha256 source = .ok schema) :
    schema.schema.fields.map FieldSchema.name = source.fields.map SchemaFieldSource.name := by
  rw [compileSchema, bind_eq_ok] at h
  obtain ⟨schemaId, -, h⟩ := h
  rw [bind_unit_eq_ok] at h
  replace h := h.2
  rw [bind_eq_ok] at h
  obtain ⟨fields, hfields, h⟩ := h
  rw [bind_eq_ok] at h
  obtain ⟨canonical, hcanonical, h⟩ := h
  rw [Except.ok.injEq] at h
  subst h
  have hsame : canonical.fields = fields := by
    unfold CanonicalSchema.make at hcanonical
    split at hcanonical
    · split at hcanonical
      · rw [Except.ok.injEq] at hcanonical
        rw [← hcanonical]
      · cases hcanonical
    · cases hcanonical
  rw [hsame, compileFields_names hfields]
  rfl

/-! ## Dictionaries -/

theorem forall₂_mem_left {α β : Type} {related : α → β → Prop} {as : List α} {bs : List β}
    (h : List.Forall₂ related as bs) {a : α} (ha : a ∈ as) : ∃ b ∈ bs, related a b := by
  induction h with
  | nil => simp at ha
  | @cons a' b' as bs hab _ ih =>
    rcases List.mem_cons.mp ha with rfl | ha
    · exact ⟨b', List.mem_cons_self, hab⟩
    · obtain ⟨b, hb, hrelated⟩ := ih ha
      exact ⟨b, List.mem_cons_of_mem _ hb, hrelated⟩

/-- The pairs of a dictionary are the compiled entities under their names. -/
theorem named_pairs {Source Value : Type} {name : Source → String}
    {compile : Source → Except Refusal Value} {sources : List Source}
    {pairs : List (String × Value)} (h : sources.mapM (named name compile) = .ok pairs) :
    List.Forall₂ (fun source pair => name source = pair.1 ∧ compile source = .ok pair.2)
      sources pairs := by
  refine (mapM_eq_ok.mp h).imp fun source pair hpair => ?_
  rw [named, bind_eq_ok] at hpair
  obtain ⟨value, hvalue, hpair⟩ := hpair
  rw [Except.ok.injEq] at hpair
  subst hpair
  exact ⟨rfl, hvalue⟩

theorem named_names {Source Value : Type} {name : Source → String}
    {compile : Source → Except Refusal Value} {sources : List Source}
    {pairs : List (String × Value)} (h : sources.mapM (named name compile) = .ok pairs) :
    sources.map name = pairs.map Prod.fst := by
  have hpairs := named_pairs h
  clear h
  induction hpairs with
  | nil => rfl
  | cons hpair _ ih => rw [List.map_cons, List.map_cons, hpair.1, ih]

theorem mem_sortedItems {Value : Type} {values : List (String × Value)} {value : Value} :
    value ∈ (sortedItems values).map Prod.snd ↔ ∃ name, (name, value) ∈ values := by
  simp [sortedItems, (List.perm_insertionSort _ values).mem_iff]

/-- The dictionary of the entities of one kind, each compiled from the only
definition of its name. -/
structure Dictionary {Source Value : Type} (name : Source → String)
    (compile : Source → Except Refusal Value) (sources : List Source)
    (values : List (String × Value)) : Prop where
  entries : List.Forall₂ (fun source pair => name source = pair.1 ∧ compile source = .ok pair.2)
    sources values
  distinct : (sources.map name).Nodup

section Dictionaries

variable {Source Value : Type} {name : Source → String}
  {compile : Source → Except Refusal Value} {sources : List Source}
  {values pairs : List (String × Value)}

theorem Dictionary.of_pairs {entityName : String}
    (hpairs : sources.mapM (named name compile) = .ok pairs)
    (hunique : uniquePairs pairs entityName = .ok values) :
    Dictionary name compile sources values := by
  obtain ⟨rfl, hnodup⟩ := uniquePairs_eq_ok hunique
  refine ⟨named_pairs hpairs, ?_⟩
  rw [named_names hpairs]
  exact hnodup

theorem Dictionary.exists_source (h : Dictionary name compile sources values)
    {reference : String} {value : Value} (hmem : (reference, value) ∈ values) :
    ∃ source ∈ sources, name source = reference ∧ compile source = .ok value := by
  obtain ⟨source, hsource, hname, hcompile⟩ := forall₂_mem_left h.entries.flip hmem
  exact ⟨source, hsource, hname, hcompile⟩

theorem Dictionary.exists_value (h : Dictionary name compile sources values) {source : Source}
    (hmem : source ∈ sources) : ∃ value, (name source, value) ∈ values ∧
      compile source = .ok value := by
  obtain ⟨⟨reference, value⟩, hvalue, hname, hcompile⟩ := forall₂_mem_left h.entries hmem
  exact ⟨value, hname ▸ hvalue, hcompile⟩

/-- A reference is to the definition of its name. -/
theorem Dictionary.compile_eq (h : Dictionary name compile sources values) {source : Source}
    {value : Value} (hsource : source ∈ sources) (hmem : (name source, value) ∈ values) :
    compile source = .ok value := by
  obtain ⟨found, hfound, hname, hcompile⟩ := h.exists_source hmem
  have hsame : found = source := List.inj_on_of_nodup_map h.distinct hfound hsource hname
  rw [← hsame]
  exact hcompile

end Dictionaries

/-! ## Checks and contracts -/

/-- What a check is compiled from. -/
structure CheckResolved (datasets : List (String × DatasetDefinition))
    (schemas : List (String × LogicalSchemaDefinition))
    (namedScopes : List (String × ScopeDefinition))
    (consistency : List (String × ConsistencyDefinition)) (source : CheckSource)
    (check : RowCheckDefinition) : Prop where
  checkId : check.checkId = source.checkId
  reference : (source.referenceRef, check.reference) ∈ datasets
  target : (source.targetRef, check.target) ∈ datasets
  comparisonSchema : (source.comparisonSchemaRef, check.comparisonSchema) ∈ schemas
  key : check.key = source.key
  assurancePolicy : AssurancePolicy.ofValue source.assurancePolicy = some check.assurancePolicy
  scope : ∃ declared,
    resolveCheckScope source datasets namedScopes s!"check {reprText source.checkId}" =
      .ok declared ∧
    orderCheckScope declared check.reference check.target = .ok check.scope
  consistency : ∃ selected, (source.consistencyRef, selected) ∈ consistency ∧
    selectConsistency selected check.reference check.target check.scope
      s!"check {reprText source.checkId}" = .ok check.consistency

theorem orderedUniqueTextFrom_eq_ok {context : String} {seen values names : List String}
    (h : orderedUniqueTextFrom context seen values = .ok names) : names = seen ++ values := by
  induction values generalizing seen with
  | nil =>
    rw [orderedUniqueTextFrom, Except.ok.injEq] at h
    rw [List.append_nil, h]
  | cons value values ih =>
    rw [orderedUniqueTextFrom, bind_eq_ok] at h
    obtain ⟨name, hname, h⟩ := h
    obtain ⟨-, -, rfl⟩ := logicalName_eq_ok.mp hname
    rw [bind_unit_eq_ok] at h
    rw [ih h.2, List.append_assoc]
    rfl

theorem orderedUniqueText_eq_ok {context : String} {values names : List String}
    (h : orderedUniqueText values context = .ok names) : names = values := by
  rw [orderedUniqueText, bind_unit_eq_ok] at h
  simpa using orderedUniqueTextFrom_eq_ok h.2

theorem orderedKnownFields_eq_ok {rawNames names : List String} {schema : LogicalSchemaDefinition}
    {context : String} (h : orderedKnownFields rawNames schema context = .ok names) :
    names = rawNames := by
  rw [orderedKnownFields, bind_eq_ok] at h
  obtain ⟨found, hfound, h⟩ := h
  rw [bind_unit_eq_ok, Except.ok.injEq] at h
  rw [← h.2]
  exact orderedUniqueText_eq_ok hfound

theorem compileCheck_eq_ok {datasets : List (String × DatasetDefinition)}
    {schemas : List (String × LogicalSchemaDefinition)}
    {namedScopes : List (String × ScopeDefinition)}
    {consistency : List (String × ConsistencyDefinition)} {source : CheckSource}
    {check : RowCheckDefinition}
    (h : compileCheck datasets schemas namedScopes consistency source = .ok check) :
    CheckResolved datasets schemas namedScopes consistency source check := by
  rw [compileCheck, bind_eq_ok] at h
  obtain ⟨checkId, hid, h⟩ := h
  obtain ⟨-, -, rfl⟩ := logicalName_eq_ok.mp hid
  simp only [bind_unit_eq_ok] at h
  obtain ⟨-, -, -, h⟩ := h
  rw [bind_eq_ok] at h
  obtain ⟨reference, hreference, h⟩ := h
  rw [bind_eq_ok] at h
  obtain ⟨target, htarget, h⟩ := h
  simp only [bind_unit_eq_ok] at h
  obtain ⟨-, -, h⟩ := h
  rw [bind_eq_ok] at h
  obtain ⟨comparisonSchema, hschema, h⟩ := h
  simp only [bind_unit_eq_ok] at h
  obtain ⟨-, -, h⟩ := h
  rw [bind_eq_ok] at h
  obtain ⟨key, hkey, h⟩ := h
  rw [bind_unit_eq_ok] at h
  replace h := h.2
  rw [bind_eq_ok] at h
  obtain ⟨declaredScope, hdeclared, h⟩ := h
  rw [bind_unit_eq_ok] at h
  replace h := h.2
  rw [bind_eq_ok] at h
  obtain ⟨scope, hscope, h⟩ := h
  simp only [bind_unit_eq_ok] at h
  obtain ⟨-, -, h⟩ := h
  rw [bind_eq_ok] at h
  obtain ⟨selected, hselected, h⟩ := h
  rw [bind_eq_ok] at h
  obtain ⟨resolved, hresolved, h⟩ := h
  split at h
  · cases h
  case h_2 assurancePolicy hassurance =>
    rw [Except.ok.injEq] at h
    subst h
    exact
      { checkId := rfl
        reference := requiredReference_mem hreference
        target := requiredReference_mem htarget
        comparisonSchema := requiredReference_mem hschema
        key := orderedKnownFields_eq_ok hkey
        assurancePolicy := hassurance
        scope := ⟨declaredScope, hdeclared, hscope⟩
        consistency := ⟨selected, requiredReference_mem hselected, hresolved⟩ }

/-- The entities of a contract and its checks, as the compiler resolved them. -/
structure ContractResolved (sha256 : Sha256) (source : LoadedContractSource)
    (config : LoadedContractConfig) (connections : List (String × ConnectionDefinition))
    (schemas : List (String × LogicalSchemaDefinition))
    (datasets : List (String × DatasetDefinition))
    (namedScopes : List (String × ScopeDefinition))
    (consistency : List (String × ConsistencyDefinition))
    (checks : List (String × RowCheckDefinition)) : Prop where
  version : source.version = 1
  configVersion : config.version = source.version
  connectionsCompiled : Dictionary ConnectionSource.connectionId compileConnection source.connections
    connections
  schemasCompiled : Dictionary SchemaSource.schemaId (compileSchema sha256) source.schemas schemas
  datasetsCompiled : Dictionary DatasetSource.datasetId (compileDataset sha256 connections schemas)
    source.datasets datasets
  namedScopesCompiled : Dictionary Prod.fst
    (fun entry => compileScope entry.2 datasets s!"scope {reprText entry.1}")
    source.namedScopes namedScopes
  consistencyCompiled : Dictionary ConsistencySource.consistencyId (compileConsistency sha256 datasets)
    source.consistency consistency
  checksCompiled : Dictionary CheckSource.checkId (compileCheck datasets schemas namedScopes consistency)
    source.checks checks
  configChecks : config.checks = (sortedItems checks).map Prod.snd
  evidence : compileEvidence source.evidence schemas = .ok config.evidence

theorem compileContract_eq_ok {source : LoadedContractSource} {config : LoadedContractConfig}
    (h : compileContract sha256 source = .ok config) :
    ∃ connections schemas datasets namedScopes consistency checks,
      ContractResolved sha256 source config connections schemas datasets namedScopes consistency
        checks := by
  rw [compileContract, bind_unit_eq_ok, refuseIf_eq_ok, not_not] at h
  obtain ⟨hversion, h⟩ := h
  rw [bind_eq_ok] at h
  obtain ⟨connectionPairs, hconnectionPairs, h⟩ := h
  rw [bind_eq_ok] at h
  obtain ⟨connections, hconnections, h⟩ := h
  rw [bind_unit_eq_ok] at h
  replace h := h.2
  rw [bind_eq_ok] at h
  obtain ⟨schemaPairs, hschemaPairs, h⟩ := h
  rw [bind_eq_ok] at h
  obtain ⟨schemas, hschemas, h⟩ := h
  rw [bind_unit_eq_ok] at h
  replace h := h.2
  rw [bind_eq_ok] at h
  obtain ⟨datasetPairs, hdatasetPairs, h⟩ := h
  rw [bind_eq_ok] at h
  obtain ⟨datasets, hdatasets, h⟩ := h
  rw [bind_unit_eq_ok] at h
  replace h := h.2
  rw [bind_eq_ok] at h
  obtain ⟨namedScopePairs, hnamedScopePairs, h⟩ := h
  rw [bind_eq_ok] at h
  obtain ⟨namedScopes, hnamedScopes, h⟩ := h
  rw [bind_eq_ok] at h
  obtain ⟨consistencyPairs, hconsistencyPairs, h⟩ := h
  rw [bind_eq_ok] at h
  obtain ⟨consistency, hconsistency, h⟩ := h
  rw [bind_unit_eq_ok] at h
  replace h := h.2
  rw [bind_eq_ok] at h
  obtain ⟨checkPairs, hcheckPairs, h⟩ := h
  rw [bind_eq_ok] at h
  obtain ⟨checks, hchecks, h⟩ := h
  rw [bind_unit_eq_ok] at h
  replace h := h.2
  rw [bind_eq_ok] at h
  obtain ⟨metadataConnection, -, h⟩ := h
  rw [bind_unit_eq_ok] at h
  replace h := h.2
  rw [bind_eq_ok] at h
  obtain ⟨execution, -, h⟩ := h
  rw [bind_eq_ok] at h
  obtain ⟨evidence, hevidence, h⟩ := h
  rw [Except.ok.injEq] at h
  subst h
  exact ⟨connections, schemas, datasets, namedScopes, consistency, checks,
    { version := hversion
      configVersion := rfl
      connectionsCompiled := .of_pairs hconnectionPairs hconnections
      schemasCompiled := .of_pairs hschemaPairs hschemas
      datasetsCompiled := .of_pairs hdatasetPairs hdatasets
      namedScopesCompiled := .of_pairs hnamedScopePairs hnamedScopes
      consistencyCompiled := .of_pairs hconsistencyPairs hconsistency
      checksCompiled := .of_pairs hcheckPairs hchecks
      configChecks := rfl
      evidence := hevidence }⟩

end ForensicData.Contracts
