/-
ForensicData.Contracts.EvidenceTheorems — when a compiled policy is accepted.

The compiler looks the fields of the evidence policy up in every logical
schema of the contract; a run looks them up in the one schema its check
compares. So the policy is accepted for every check exactly when each of its
fields is a field of every compared schema
(`evidence_policy_accepted_iff`), and a contract with two schemas may compile
and then fail (`two_schemas_not_closed`).
-/
import ForensicData.Contracts.Evidence
import ForensicData.Contracts.References

namespace ForensicData.Contracts

open ForensicData.Canonical
open ForensicData.Lib

variable {sha256 : Sha256}

/-! ## Evidence rules -/

theorem compileEvidenceFields_eq_ok {knownFields : List String}
    {compiled policies : List EvidenceFieldPolicy} {entries : List (String × String)}
    (h : compileEvidenceFields knownFields compiled entries = .ok policies)
    (hnodup : (compiled.map EvidenceFieldPolicy.fieldName).Nodup)
    (hnonblank : ∀ rule ∈ compiled, isBlank rule.fieldName = false) :
    policies.map EvidenceFieldPolicy.fieldName =
        compiled.map EvidenceFieldPolicy.fieldName ++ entries.map Prod.fst ∧
      (policies.map EvidenceFieldPolicy.fieldName).Nodup ∧
      ∀ rule ∈ policies, isBlank rule.fieldName = false := by
  induction entries generalizing compiled with
  | nil =>
    rw [compileEvidenceFields, Except.ok.injEq] at h
    subst h
    exact ⟨by simp, hnodup, hnonblank⟩
  | cons entry entries ih =>
    rw [compileEvidenceFields, bind_eq_ok] at h
    obtain ⟨name, hname, h⟩ := h
    obtain ⟨-, hblank, rfl⟩ := logicalName_eq_ok.mp hname
    simp only [bind_unit_eq_ok, refuseIf_eq_ok] at h
    obtain ⟨hfresh, -, h⟩ := h
    split at h
    case h_1 => cases h
    case h_2 action _ =>
      obtain ⟨hnames, hrest⟩ := ih h
        (by
          rw [List.map_append, List.map_cons, List.map_nil, List.nodup_append]
          refine ⟨hnodup, by simp, fun a ha b hb hab => ?_⟩
          rw [List.mem_singleton] at hb
          subst hab hb
          exact hfresh ha)
        (by
          intro rule hrule
          rw [List.mem_append, List.mem_singleton] at hrule
          rcases hrule with hrule | rfl
          · exact hnonblank rule hrule
          · exact hblank)
      refine ⟨?_, hrest⟩
      rw [hnames, List.map_append, List.append_assoc]
      rfl

/-- A compiled policy has one rule for each entry of its source. -/
theorem compileEvidence_eq_ok {source : EvidenceSource}
    {schemas : List (String × LogicalSchemaDefinition)} {policy : EvidenceDefinition}
    (h : compileEvidence source schemas = .ok policy) :
    policy.fields.map EvidenceFieldPolicy.fieldName = source.fields.map Prod.fst ∧
      policy.WellNamed := by
  unfold compileEvidence at h
  split at h
  · cases h
  · split at h
    · cases h
    · split at h
      · cases h
      · rw [bind_eq_ok] at h
        obtain ⟨fields, hfields, h⟩ := h
        rw [Except.ok.injEq] at h
        subst h
        obtain ⟨hnames, hnodup, hnonblank⟩ :=
          compileEvidenceFields_eq_ok hfields (by simp) (by simp)
        exact ⟨by simpa using hnames, hnodup, hnonblank⟩

/-! ## The compiled contract -/

/-- What a compiled contract takes from its source: the compared fields of its
checks and the rules of its evidence policy. -/
structure CompiledFrom (source : LoadedContractSource) (config : LoadedContractConfig) : Prop where
  ofSource : ∀ declared ∈ source.checks, ∃ check ∈ config.checks, ∃ schema ∈ source.schemas,
    schema.schemaId = declared.comparisonSchemaRef ∧
      check.fieldNames = schema.fields.map SchemaFieldSource.name
  ofCheck : ∀ check ∈ config.checks, ∃ declared ∈ source.checks, ∃ schema ∈ source.schemas,
    schema.schemaId = declared.comparisonSchemaRef ∧
      check.fieldNames = schema.fields.map SchemaFieldSource.name
  schemaIds : (source.schemas.map SchemaSource.schemaId).Nodup
  ruleNames : config.evidence.fields.map EvidenceFieldPolicy.fieldName =
    source.evidence.fields.map Prod.fst
  wellNamed : config.evidence.WellNamed

/-- The schema a compiled check compares is that of its source. -/
theorem check_fieldNames {sources : List SchemaSource}
    {schemas : List (String × LogicalSchemaDefinition)}
    {datasets : List (String × DatasetDefinition)}
    {namedScopes : List (String × ScopeDefinition)}
    {consistency : List (String × ConsistencyDefinition)} {declared : CheckSource}
    {check : RowCheckDefinition}
    (hschemas : Dictionary SchemaSource.schemaId (compileSchema sha256) sources schemas)
    (hcheck : compileCheck datasets schemas namedScopes consistency declared = .ok check) :
    ∃ schema ∈ sources, schema.schemaId = declared.comparisonSchemaRef ∧
      check.fieldNames = schema.fields.map SchemaFieldSource.name := by
  obtain ⟨schema, hmem, hid, hcompiled⟩ :=
    hschemas.exists_source (compileCheck_eq_ok hcheck).comparisonSchema
  exact ⟨schema, hmem, hid, compileSchema_names hcompiled⟩

theorem compiledFrom {source : LoadedContractSource} {config : LoadedContractConfig}
    (h : compileContract sha256 source = .ok config) : CompiledFrom source config := by
  obtain ⟨connections, schemas, datasets, namedScopes, consistency, checks, hresolved⟩ :=
    compileContract_eq_ok h
  obtain ⟨hnames, hwell⟩ := compileEvidence_eq_ok hresolved.evidence
  refine ⟨fun declared hdeclared => ?_, fun check hcheck => ?_, hresolved.schemasCompiled.distinct,
    hnames, hwell⟩
  · obtain ⟨check, hmem, hcompiled⟩ := hresolved.checksCompiled.exists_value hdeclared
    refine ⟨check, ?_, check_fieldNames hresolved.schemasCompiled hcompiled⟩
    rw [hresolved.configChecks]
    exact mem_sortedItems.mpr ⟨declared.checkId, hmem⟩
  · rw [hresolved.configChecks] at hcheck
    obtain ⟨name, hmem⟩ := mem_sortedItems.mp hcheck
    obtain ⟨declared, hdeclared, -, hcompiled⟩ := hresolved.checksCompiled.exists_source hmem
    exact ⟨declared, hdeclared, check_fieldNames hresolved.schemasCompiled hcompiled⟩

/-! ## When every run accepts the policy -/

/-- The policy is accepted by the engine of a check and, from every request
that carries it, by publication and readback. -/
def PolicyAccepted (policy : EvidenceDefinition) (check : RowCheckDefinition) : Prop :=
  (∃ actions, evidenceActions check.comparisonSchema.schema.fields policy = .ok actions) ∧
    ∀ request : List (String × Json),
      request.lookup "evidence_policy" = some (evidencePolicySemantics policy) →
        ∃ actions, evidenceActionsFromRequest request
          (check.comparisonSchema.schema.fields.map comparisonField) = .ok actions

theorem comparisonField_names (check : RowCheckDefinition) :
    (check.comparisonSchema.schema.fields.map comparisonField).map ComparisonField.fieldName =
      check.fieldNames := by
  rw [List.map_map, RowCheckDefinition.fieldNames]
  exact List.map_congr_left fun field _ => comparisonField_fieldName field

theorem policyAccepted_iff {policy : EvidenceDefinition} (hwell : policy.WellNamed)
    (check : RowCheckDefinition) :
    PolicyAccepted policy check ↔ policy.Within check.fieldNames := by
  constructor
  · intro h
    obtain ⟨actions, hactions⟩ := h.1
    exact (evidenceActions_eq_ok.mp hactions).1
  · intro h
    refine ⟨⟨_, evidenceActions_eq_ok.mpr ⟨h, rfl⟩⟩, fun request hrequest => ?_⟩
    refine ⟨_, (evidenceActionsFromRequest_eq_ok hwell hrequest).mpr ⟨?_, rfl⟩⟩
    rw [comparisonField_names]
    exact h

/-- Every field the evidence policy names is a field of the schema `declared`
compares. -/
def NamesComparedFields (source : LoadedContractSource) (declared : CheckSource) : Prop :=
  ∀ schema ∈ source.schemas, schema.schemaId = declared.comparisonSchemaRef →
    ∀ entry ∈ source.evidence.fields, entry.1 ∈ schema.fields.map SchemaFieldSource.name

/-- A contract that compiles has its evidence policy accepted in the runs of
all its checks exactly when the policy names only fields that every check
compares. -/
theorem evidence_policy_accepted_iff {source : LoadedContractSource}
    {config : LoadedContractConfig} (h : compileContract sha256 source = .ok config) :
    (∀ check ∈ config.checks, PolicyAccepted config.evidence check) ↔
      ∀ declared ∈ source.checks, NamesComparedFields source declared := by
  have hfrom := compiledFrom h
  have hwithin : ∀ names : List String, config.evidence.Within names ↔
      ∀ entry ∈ source.evidence.fields, entry.1 ∈ names := by
    intro names
    have hrules : config.evidence.Within names ↔
        ∀ name ∈ config.evidence.fields.map EvidenceFieldPolicy.fieldName, name ∈ names := by
      simp [EvidenceDefinition.Within]
    rw [hrules, hfrom.ruleNames]
    simp
  constructor
  · intro haccepted declared hdeclared schema hschema hid
    obtain ⟨check, hcheck, other, hother, hotherId, hnames⟩ := hfrom.ofSource declared hdeclared
    have hsame : other = schema :=
      List.inj_on_of_nodup_map hfrom.schemaIds hother hschema (hotherId.trans hid.symm)
    have hpolicy := (policyAccepted_iff hfrom.wellNamed check).mp (haccepted check hcheck)
    rw [hnames, hsame] at hpolicy
    exact (hwithin _).mp hpolicy
  · intro hdeclared check hcheck
    obtain ⟨declared, hmem, schema, hschema, hid, hnames⟩ := hfrom.ofCheck check hcheck
    rw [policyAccepted_iff hfrom.wellNamed, hnames]
    exact (hwithin _).mpr (hdeclared declared hmem schema hschema hid)

/-! ## A contract with two schemas -/

section TwoSchemas

/-- A digest that is the same for every message. -/
def constantDigest : Sha256 where
  digest _ := List.replicate 32 0
  length_digest _ := List.length_replicate

def int64Source : LogicalTypeSource := { kind := "int64", precision := none, scale := none }

def stringSource : LogicalTypeSource := { kind := "string", precision := none, scale := none }

def sampleField (name : String) (logicalType : LogicalTypeSource) : SchemaFieldSource :=
  { name, logicalType, nullable := false, normalization := "none", equality := "exact" }

def samplePostgres (connectionId role : String) : ConnectionSource :=
  { connectionId, adapter := "postgresql", driver := "psycopg", profile := "postgresql_17"
    roles := [role], secretRef := connectionId }

def sampleRelation (name : String) : RelationSource :=
  { catalog := none, schema := some "public", name, relationScope := "physical_only" }

def sampleDataset (datasetId connectionRef : String) : DatasetSource :=
  { datasetId, connectionRef, locator := .relation (sampleRelation "orders")
    logicalSchemaRef := "orders", projection := [{ field := "id", column := "id" }]
    grain := ["id"] }

def sampleReadiness (datasetRef : String) : ConsistencyDatasetSource where
  datasetRef := datasetRef
  readiness := .relationManifest
    { relation := sampleRelation "batches"
      columns :=
        { datasetId := "dataset", scopeDigest := "scope", batchId := "batch", state := "state"
          businessDate := "day", sourceCut := "cut", datasetVersion := "version"
          completedAt := "done" } }
  stableRead := "transaction_snapshot"

/-- One check over the schema `orders`, next to a schema `customers`, with an
evidence rule for one field. -/
def ordersContract (evidenceField : String) : LoadedContractSource where
  version := 1
  connections :=
    [samplePostgres "mart" "target", samplePostgres "meta" "metadata",
      samplePostgres "warehouse" "source"]
  schemas :=
    [{ schemaId := "customers", fields := [sampleField "name" stringSource] },
     { schemaId := "orders", fields := [sampleField "id" int64Source] }]
  datasets := [sampleDataset "orders_mart" "mart", sampleDataset "orders_warehouse" "warehouse"]
  checks :=
    [{ checkId := "orders", revision := 1, invariant := "row_equivalence"
       referenceRef := "orders_warehouse", targetRef := "orders_mart"
       comparisonSchemaRef := "orders", key := ["id"], inlineScope := none
       scopeRef := some "all", consistencyRef := "daily"
       assurancePolicy := "fingerprint_allowed" }]
  namedScopes := [("all", { parameters := [], bindings := [], nullPartition := "reject" })]
  consistency :=
    [{ consistencyId := "daily", minimumEvidence := "verified", alignmentFields := ["batch"]
       lateArrivals := "next_batch"
       datasets := [sampleReadiness "orders_mart", sampleReadiness "orders_warehouse"] }]
  execution :=
    { version := 1, maxQueries := 10, maxFetchedRecords := 10, maxApplicationResultBytes := 10
      maxEvidenceRows := 1, maxEvidenceBytes := 1, maxFingerprintNodes := 1
      maxCoordinatorMemoryBytes := 1, maxDepth := 1, maxFullScansPerSide := 1
      statementTimeoutMilliseconds := 1, runTimeoutMilliseconds := 1, maxAttempts := 1
      maxChecksConcurrency := 1, maxSourceConcurrency := 1 }
  metadataConnectionRef := "meta"
  evidence :=
    { sqlCapture := "disabled", ddlCapture := "disabled", fields := [(evidenceField, "redact")]
      unspecifiedFields := "store" }

theorem exists_eq_ok {ε α : Type} {x : Except ε α} (h : x.isOk = true) : ∃ a, x = .ok a := by
  cases x with
  | error e => cases h
  | ok a => exact ⟨a, rfl⟩

/-- A policy over a field of the compared schema is accepted. -/
theorem compared_field_policy_accepted :
    ∃ config, compileContract constantDigest (ordersContract "id") = .ok config ∧
      ∀ check ∈ config.checks, PolicyAccepted config.evidence check := by
  obtain ⟨config, hconfig⟩ := exists_eq_ok
    (show (compileContract constantDigest (ordersContract "id")).isOk = true by decide +kernel)
  refine ⟨config, hconfig, (evidence_policy_accepted_iff hconfig).mpr ?_⟩
  simp [ordersContract, NamesComparedFields, sampleField]

/-- A policy over a field of the other schema compiles, and no run accepts it. -/
theorem two_schemas_not_closed :
    ¬ ∀ (sha256 : Sha256) (source : LoadedContractSource) (config : LoadedContractConfig),
      compileContract sha256 source = .ok config →
        ∀ check ∈ config.checks, PolicyAccepted config.evidence check := by
  intro hclosed
  obtain ⟨config, hconfig⟩ := exists_eq_ok
    (show (compileContract constantDigest (ordersContract "name")).isOk = true by decide +kernel)
  have hfrom := compiledFrom hconfig
  obtain ⟨check, hcheck, schema, hschema, hid, hnames⟩ := hfrom.ofSource _ List.mem_cons_self
  have hwithin := (policyAccepted_iff hfrom.wellNamed check).mp
    (hclosed _ _ _ hconfig check hcheck)
  have hrule : "name" ∈ config.evidence.fields.map EvidenceFieldPolicy.fieldName := by
    rw [hfrom.ruleNames]
    exact List.mem_cons_self
  obtain ⟨rule, hmem, hrule⟩ := List.mem_map.mp hrule
  have hfield := hwithin rule hmem
  rw [hrule, hnames] at hfield
  simp [ordersContract] at hschema
  rcases hschema with rfl | rfl
  · simp at hid
  · simp [sampleField] at hfield

end TwoSchemas

end ForensicData.Contracts
