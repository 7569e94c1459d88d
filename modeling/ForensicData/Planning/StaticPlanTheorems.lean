/-
ForensicData.Planning.StaticPlanTheorems — every accepted contract has a plan.

Each record of a plan passes its validators on what the compiler guarantees of a
check: one lemma a record, from the logical types up to the report
(`static_plan_total`).
-/
import ForensicData.Planning.StaticPlan

namespace ForensicData.Planning

open ForensicData.Canonical
open ForensicData.Contracts
open ForensicData.Lib

variable {sha256 : Sha256}

/-! ## Texts -/

theorem isBlank_append {a b : String} : isBlank (a ++ b) = (isBlank a && isBlank b) := by
  simp [isBlank, String.toList_append]

theorem isPlain_append {a b : String} : IsPlain (a ++ b) ↔ IsPlain a ∧ IsPlain b := by
  simp [IsPlain, String.toList_append, not_or]

theorem isPlain_of_isSha256Hex {value : String} (h : isSha256Hex value = true) :
    IsPlain value := by
  rw [isSha256Hex, Bool.and_eq_true] at h
  intro hmem
  have hhex := List.all_eq_true.mp h.2 _ hmem
  revert hhex
  decide

/-- A text literal is checked by its characters. -/
theorem isPlain_ofList {cs : List Char} (h : Char.ofNat 0 ∉ cs := by decide +kernel) :
    IsPlain (String.ofList cs) := by
  rwa [IsPlain, String.toList_ofList]

theorem isBlank_ofList {cs : List Char} (h : cs.all isPythonSpace = false := by decide +kernel) :
    isBlank (String.ofList cs) = false := by
  rwa [isBlank, String.toList_ofList]

theorem requirePlainTexts_eq_ok {values : List String} {u : Unit} :
    requirePlainTexts values = .ok u ↔ ∀ value ∈ values, IsPlain value := by
  rw [requirePlainTexts, refuseIf_eq_ok, not_not]

theorem requireDigestHex_eq_ok {value : String} {u : Unit} :
    requireDigestHex value = .ok u ↔ isSha256Hex value = true := by
  rw [requireDigestHex, refuseIf_eq_ok, Bool.not_eq_false]

theorem requireNonblank_eq_ok {value message : String} {u : Unit} :
    requireNonblank value message = .ok u ↔ isBlank value = false := by
  rw [requireNonblank, refuseIf_eq_ok, Bool.not_eq_true]

/-- A model whose fields pass is built, with these fields. -/
theorem exists_validated {Fields : Type} (validate : Fields → Except Refusal Unit)
    (fields : Fields) (h : validate fields = .ok ()) :
    ∃ model, validated validate fields = .ok model ∧ model.1 = fields :=
  ⟨_, validated_eq_ok h, rfl⟩

/-! ## Parameters and artifacts -/

theorem logicalTypeOfKind_value (logicalType : LogicalType) :
    logicalTypeOfKind logicalType.value = some logicalType := by
  cases logicalType <;> decide

theorem isPlain_logicalType (logicalType : LogicalType) : IsPlain logicalType.value := by
  cases logicalType <;> decide

/-- The parameters of a field are those that a plan accepts for its type. -/
theorem planLogicalType_isOk (field : FieldSchema) :
    ∃ type, planLogicalType field = .ok type := by
  have hplain := isPlain_logicalType field.logicalType
  have hkind := logicalTypeOfKind_value field.logicalType
  have hfits := field.fits
  refine (exists_validated PlanLogicalTypeFields.validate _ ?_).imp fun type htype => htype.1
  cases hparameters : field.parameters with
  | none =>
    rw [hparameters] at hfits
    simp only [PlanLogicalTypeFields.validate, bind_unit_eq_ok, requirePlainTexts_eq_ok, hkind,
      List.forall_mem_singleton]
    refine ⟨hplain, ?_⟩
    cases htype : field.logicalType <;> rw [htype] at hfits <;> first | (cases hfits; done) | simp
  | decimal own =>
    have hprecision := own.precision_pos
    have hbound := own.precision_le
    have hscale := own.scale_le
    rw [hparameters] at hfits
    simp only [PlanLogicalTypeFields.validate, bind_unit_eq_ok, requirePlainTexts_eq_ok, hkind,
      List.forall_mem_singleton]
    refine ⟨hplain, ?_⟩
    cases htype : field.logicalType <;> rw [htype] at hfits <;> first | (cases hfits; done) | skip
    simp only [refuseIf_eq_ok, not_not]
    omega
  | timestamp own =>
    have hbound := own.precision_le
    rw [hparameters] at hfits
    simp only [PlanLogicalTypeFields.validate, bind_unit_eq_ok, requirePlainTexts_eq_ok, hkind,
      List.forall_mem_singleton]
    refine ⟨hplain, ?_⟩
    cases htype : field.logicalType <;> rw [htype] at hfits <;> first | (cases hfits; done) | skip
    all_goals
      simp only [PlanLogicalTypeFields.validate.timestamp, refuseIf_eq_ok, not_not, and_true]
      exact ⟨_, rfl, by omega, by omega⟩

theorem planParameter_isOk {parameter : SqlParameterDefinition}
    (hname : IsLogicalName parameter.name) :
    ∃ plan, planParameter parameter = .ok plan ∧ plan.1.name = parameter.name := by
  rcases planLogicalType_isOk parameter.field with ⟨type, htype⟩
  rcases exists_validated PlanParameterFields.validate
    { name := parameter.name, type } (by
      rw [PlanParameterFields.validate, requirePlainTexts_eq_ok]
      simpa using hname.plain) with ⟨plan, hplan, hfields⟩
  refine ⟨plan, ?_, by rw [hfields]⟩
  rw [planParameter, bind_eq_ok]
  exact ⟨type, htype, hplan⟩

theorem planArtifact_isOk (purpose : ArtifactPurpose) (direction : PlanDirection)
    {datasetId : String} {artifact : SqlArtifactDefinition} (hartifact : artifact.Compiled)
    (hid : IsLogicalName datasetId) :
    ∃ plan, planArtifact purpose direction datasetId artifact = .ok plan ∧
      (plan.1.datasetId, plan.1.direction, plan.1.purpose) = (datasetId, direction, purpose) := by
  have hparameters : ∀ parameter ∈ artifact.parameters, ∃ plan,
      planParameter parameter = .ok plan ∧ parameter.name = plan.1.name := by
    intro parameter hparameter
    rcases planParameter_isOk (hartifact.names.each _ (List.mem_map_of_mem hparameter)) with
      ⟨plan, hplan, hname⟩
    exact ⟨plan, hplan, hname.symm⟩
  rcases exists_mapM_eq_ok hparameters with ⟨parameters, hloop, hnames⟩
  have hsame : artifact.parameters.map SqlParameterDefinition.name
      = parameters.map fun parameter => parameter.1.name :=
    map_eq_of_forall₂ (fun _ _ hname => hname) hnames
  have hown := hartifact.names
  rw [hsame] at hown
  rcases exists_validated PlanArtifactFields.validate
    { purpose, direction, datasetId, dialect := artifact.dialect
      contentSha256 := artifact.contentSha256, parameters } (by
      simp only [PlanArtifactFields.validate, bind_unit_eq_ok, requireDigestHex_eq_ok,
        requirePlainTexts_eq_ok, requireNonblank_eq_ok, refuseIf_eq_ok, not_or, not_not,
        List.forall_mem_cons]
      refine ⟨hartifact.contentSha256, ⟨hid.plain, isPlain_of_isSha256Hex hartifact.contentSha256,
        by simp⟩, hid.nonblank, ?_, hown.distinct⟩
      rintro ⟨name, hmem, hblank⟩
      rw [(hown.each name hmem).nonblank] at hblank
      cases hblank) with ⟨plan, hplan, hfields⟩
  refine ⟨plan, ?_, by rw [hfields]⟩
  rw [planArtifact, bind_eq_ok]
  exact ⟨parameters, hloop, hplan⟩

theorem planArtifactIfAny_isOk (purpose : ArtifactPurpose) (direction : PlanDirection)
    {datasetId : String} {artifact : Option SqlArtifactDefinition}
    (hartifact : ∀ own, artifact = some own → own.Compiled) (hid : IsLogicalName datasetId) :
    ∃ plans, planArtifactIfAny purpose direction datasetId artifact = .ok plans ∧
      plans.map (fun plan => (plan.1.datasetId, plan.1.direction, plan.1.purpose))
        = if artifact.isSome then [(datasetId, direction, purpose)] else [] := by
  cases artifact with
  | none => exact ⟨[], rfl, rfl⟩
  | some own =>
    rcases planArtifact_isOk purpose direction (hartifact own rfl) hid
      with ⟨plan, hplan, hown⟩
    refine ⟨[plan], ?_, ?_⟩
    · rw [planArtifactIfAny, hplan]
      rfl
    · rw [List.map_singleton, hown]
      rfl

/-! ## Datasets -/

theorem planReadiness_isOk {dataset : DatasetDefinition} {readiness : ReadinessDefinition}
    (hconnection : dataset.connection.Compiled) (hreadiness : readiness.Compiled)
    (hinherits : ∀ manifest, readiness = .relationManifest manifest →
      manifest.connectionId = dataset.connection.connectionId) :
    ∃ plan, planReadiness dataset readiness = .ok plan ∧
      plan.connectionId = dataset.connection.connectionId ∧
      plan.isSql = (readinessArtifact readiness).isSome := by
  have hid := hconnection.connectionId
  cases readiness with
  | sqlArtifact artifact =>
    rcases exists_validated PlanSqlReadinessFields.validate
      { connectionId := dataset.connection.connectionId } (by
        simp only [PlanSqlReadinessFields.validate, bind_unit_eq_ok, requirePlainTexts_eq_ok,
          requireNonblank_eq_ok, List.forall_mem_singleton]
        exact ⟨hid.plain, hid.nonblank⟩) with ⟨plan, hplan, hfields⟩
    refine ⟨.sql plan, ?_, by rw [PlanReadiness.connectionId, hfields], rfl⟩
    simp only [planReadiness, bind_eq_ok, pure_eq_ok]
    exact ⟨plan, hplan, rfl⟩
  | relationManifest manifest =>
    have hown : manifest.connectionId = dataset.connection.connectionId := hinherits manifest rfl
    have hmanifest : manifest.Compiled := hreadiness
    rcases exists_validated validateReadinessRelation
      manifest.relation (by
        simp only [validateReadinessRelation, bind_unit_eq_ok, requirePlainTexts_eq_ok,
          refuseIf_eq_ok, hmanifest.catalog, hmanifest.relationScope]
        simp [hmanifest.schema.plain, hmanifest.name.plain, hmanifest.schema.nonempty,
          hmanifest.name.nonempty]) with ⟨relation, hrelation, -⟩
    rcases exists_validated validateManifestColumns manifest.columns (by
        simp only [validateManifestColumns, bind_unit_eq_ok, requirePlainTexts_eq_ok,
          refuseIf_eq_ok, not_or, not_not]
        refine ⟨fun column hcolumn => (hmanifest.columns column hcolumn).plain, ?_,
          hmanifest.distinct⟩
        intro hempty
        exact (hmanifest.columns _ hempty).nonempty rfl) with ⟨columns, hcolumns, -⟩
    rcases exists_validated PlanManifestReadinessFields.validate
      { connectionId := manifest.connectionId, relation, columns } (by
        simp only [PlanManifestReadinessFields.validate, bind_unit_eq_ok, requirePlainTexts_eq_ok,
          requireNonblank_eq_ok, List.forall_mem_singleton, hown]
        exact ⟨hid.plain, hid.nonblank⟩) with ⟨plan, hplan, hfields⟩
    refine ⟨.relationManifest plan, ?_, by rw [PlanReadiness.connectionId, hfields, hown], rfl⟩
    simp only [planReadiness, bind_eq_ok, pure_eq_ok, refuseIf_eq_ok, not_not]
    exact ⟨(), hown, relation, hrelation, columns, hcolumns, plan, hplan, rfl⟩

theorem planDataset_isOk (sha256 : Sha256) {dataset : DatasetDefinition}
    {item : ConsistencyDatasetDefinition} (hdataset : dataset.Compiled)
    (hready : item.ReadyFor dataset) (direction : PlanDirection) :
    ∃ plan, planDataset sha256 dataset item.readiness direction = .ok plan ∧
      plan.1.direction = direction ∧ plan.1.datasetId = dataset.datasetId ∧
      plan.1.locatorKind = planLocatorKind dataset.locator ∧
      plan.1.relationScope = planRelationScope dataset.locator ∧
      plan.1.readiness.isSql = (readinessArtifact item.readiness).isSome := by
  rcases planReadiness_isOk hdataset.connection hready.readiness hready.connection with
    ⟨readiness, hreadiness, hconnection, hsql⟩
  have hid := hdataset.datasetId
  have hconnectionId := hdataset.connection.connectionId
  have hdriver := hdataset.connection.driver
  have hprofile := hdataset.connection.profile
  have hdigest := (semanticDigestHex sha256 (datasetSemanticValue dataset)).2
  have hscope : (¬ (planLocatorKind dataset.locator = .relation ∧
      planRelationScope dataset.locator = none)) ∧
      ¬ (planLocatorKind dataset.locator = .sql ∧
        (planRelationScope dataset.locator).isSome = true) := by
    cases dataset.locator <;> simp [planLocatorKind, planRelationScope]
  rcases exists_validated PlanDatasetFields.validate
    { direction, datasetId := dataset.datasetId
      datasetDigest := (semanticDigestHex sha256 (datasetSemanticValue dataset)).1
      connectionId := dataset.connection.connectionId, adapter := dataset.connection.adapter
      driver := dataset.connection.driver, profile := dataset.connection.profile
      locatorKind := planLocatorKind dataset.locator
      relationScope := planRelationScope dataset.locator, readiness } (by
      simp only [PlanDatasetFields.validate, bind_unit_eq_ok, requireDigestHex_eq_ok,
        requirePlainTexts_eq_ok, requireNonblank_eq_ok, refuseIf_eq_ok, not_not,
        List.forall_mem_cons]
      exact ⟨hdigest, ⟨hid.plain, isPlain_of_isSha256Hex hdigest, hconnectionId.plain,
        hdriver.plain, hprofile.plain, by simp⟩, hid.nonblank, hconnectionId.nonblank,
        hdriver.nonblank, hprofile.nonblank, hscope.1, hscope.2, hconnection⟩) with
    ⟨plan, hplan, hfields⟩
  refine ⟨plan, ?_, by rw [hfields], by rw [hfields], by rw [hfields], by rw [hfields],
    by rw [hfields, hsql]⟩
  rw [planDataset, bind_eq_ok]
  exact ⟨readiness, hreadiness, hplan⟩

/-! ## Steps -/

/-- Models that pass are built in order. -/
theorem mapM_validated {Fields : Type} (validate : Fields → Except Refusal Unit)
    (items : List Fields) (h : ∀ fields ∈ items, validate fields = .ok ()) :
    ∃ models, items.mapM (validated validate) = .ok models ∧
      models.map Subtype.val = items := by
  have hitems : ∀ fields ∈ items, ∃ model, validated validate fields = .ok model ∧
      fields = model.1 := by
    intro fields hfields
    exact ⟨_, validated_eq_ok (h fields hfields), rfl⟩
  rcases exists_mapM_eq_ok hitems with ⟨models, hloop, hsame⟩
  refine ⟨models, hloop, ?_⟩
  rw [← map_eq_of_forall₂ (fun _ _ hequal => hequal) hsame, List.map_id']

/-- The identities that a complete set of probes has. -/
def probeIdentities : List (PlanDirection × String) :=
  [PlanDirection.reference, .target].flatMap fun direction =>
    probeNames.map fun name => (direction, name)

def directedId (reference target : String) : PlanDirection → String
  | .reference => reference
  | .target => target

theorem planProbes_isOk {check : RowCheckDefinition} (hcheck : check.Compiled) :
    ∃ probes, planProbes check = .ok probes ∧
      probes.map (fun probe => (probe.1.datasetId, probe.1.direction, probe.1.name))
        = probeIdentities.map fun identity =>
          (directedId check.reference.datasetId check.target.datasetId identity.1, identity) := by
  have hreference := hcheck.reference.datasetId.plain
  have htarget := hcheck.target.datasetId.plain
  have hnames : ∀ name ∈ probeNames, IsPlain name := by
    simp only [probeNames, List.forall_mem_cons]
    exact ⟨isPlain_ofList, isPlain_ofList, isPlain_ofList, isPlain_ofList, by simp⟩
  rcases mapM_validated PlanProbeFields.validate
    ([(PlanDirection.reference, check.reference), (.target, check.target)].flatMap
      fun side => probeNames.map fun name =>
        { name, status := PlanProbeStatus.requiredNotRun, direction := side.1
          datasetId := side.2.datasetId : PlanProbeFields }) (by
      intro fields hfields
      simp only [List.flatMap_cons, List.flatMap_nil, List.append_nil, List.mem_append,
        List.mem_map] at hfields
      rw [PlanProbeFields.validate, requirePlainTexts_eq_ok]
      rcases hfields with ⟨name, hname, rfl⟩ | ⟨name, hname, rfl⟩
      · simp [hnames name hname, hreference]
      · simp [hnames name hname, htarget]) with ⟨probes, hloop, hfields⟩
  refine ⟨probes, hloop, ?_⟩
  have hmap : probes.map (fun probe => (probe.1.datasetId, probe.1.direction, probe.1.name))
      = (probes.map Subtype.val).map fun fields =>
        (fields.datasetId, fields.direction, fields.name) := by
    rw [List.map_map]
    rfl
  rw [hmap, hfields]
  rfl

theorem planStages_isOk (check : RowCheckDefinition) :
    ∃ stages, planStages check = .ok stages ∧
      stages.map (fun stage => stage.1.name) = expectedStageNames check.assurancePolicy := by
  have hnames : ∀ name ∈ expectedStageNames check.assurancePolicy, IsPlain name := by
    cases check.assurancePolicy <;>
      simp only [expectedStageNames, List.forall_mem_append, List.forall_mem_cons]
    · exact ⟨⟨⟨isPlain_ofList, isPlain_ofList, isPlain_ofList, by simp⟩, isPlain_ofList,
        isPlain_ofList, by simp⟩, isPlain_ofList, by simp⟩
    · exact ⟨⟨⟨isPlain_ofList, isPlain_ofList, isPlain_ofList, by simp⟩, isPlain_ofList, by simp⟩,
        isPlain_ofList, by simp⟩
  rcases mapM_validated PlanStageFields.validate
    ((expectedStageNames check.assurancePolicy).map fun name =>
      { name, status := PlanStageStatus.plannedNotRun : PlanStageFields }) (by
      intro fields hfields
      rcases List.mem_map.mp hfields with ⟨name, hname, rfl⟩
      rw [PlanStageFields.validate, requirePlainTexts_eq_ok]
      simpa using hnames name hname) with ⟨stages, hloop, hfields⟩
  refine ⟨stages, hloop, ?_⟩
  have hmap : stages.map (fun stage => stage.1.name)
      = (stages.map Subtype.val).map PlanStageFields.name := by
    rw [List.map_map]
    rfl
  rw [hmap, hfields, List.map_map]
  exact List.map_id' _

theorem planEstimates_isOk :
    ∃ estimates, planEstimates = .ok estimates ∧
      estimates.map (fun estimate => (estimate.1.name, estimate.1.unit)) = expectedEstimates := by
  have hrecords : IsPlain "records" := isPlain_ofList
  have hbytes : IsPlain "bytes" := isPlain_ofList
  have hqueries : IsPlain "queries" := isPlain_ofList
  have hplain : ∀ estimate ∈ expectedEstimates, IsPlain estimate.1 ∧ IsPlain estimate.2 := by
    simp only [expectedEstimates, List.forall_mem_cons]
    exact ⟨⟨isPlain_ofList, hrecords⟩, ⟨isPlain_ofList, hrecords⟩, ⟨isPlain_ofList, hbytes⟩,
      ⟨isPlain_ofList, hbytes⟩, ⟨hqueries, hqueries⟩, by simp⟩
  rcases mapM_validated PlanEstimateFields.validate
    (expectedEstimates.map fun estimate =>
      { name := estimate.1, status := EstimateStatus.unknown
        unit := estimate.2 : PlanEstimateFields }) (by
      intro fields hfields
      rcases List.mem_map.mp hfields with ⟨estimate, hestimate, rfl⟩
      rw [PlanEstimateFields.validate, requirePlainTexts_eq_ok]
      simpa using hplain estimate hestimate) with ⟨estimates, hloop, hfields⟩
  refine ⟨estimates, hloop, ?_⟩
  have hmap : estimates.map (fun estimate => (estimate.1.name, estimate.1.unit))
      = (estimates.map Subtype.val).map fun fields => (fields.name, fields.unit) := by
    rw [List.map_map]
    rfl
  rw [hmap, hfields]
  rfl

/-! ## Directed records -/

/-- Records of the right datasets with distinct identities pass the loop. -/
theorem validateDirected_eq_ok {Tag : Type} [DecidableEq Tag] {texts : DirectedTexts}
    {datasetId : PlanDirection → String} {seen identities : List (PlanDirection × Tag)}
    (hdistinct : (seen ++ identities).Nodup) :
    validateDirected texts datasetId seen
        (identities.map fun identity => (datasetId identity.1, identity))
      = .ok (seen ++ identities) := by
  induction identities generalizing seen with
  | nil => simp [validateDirected]
  | cons identity identities ih =>
    have hfresh : identity ∉ seen := by
      intro hmem
      exact (List.nodup_append.mp hdistinct).2.2 identity hmem identity List.mem_cons_self rfl
    have hrest : ((seen ++ [identity]) ++ identities).Nodup := by
      rwa [List.append_assoc, List.singleton_append]
    rw [List.map_cons, validateDirected, bind_unit_eq_ok, bind_unit_eq_ok, refuseIf_eq_ok,
      refuseIf_eq_ok, not_not, ih hrest, List.append_assoc, List.singleton_append]
    exact ⟨rfl, hfresh, rfl⟩

/-- The identities of the artifacts of a check, by the sides that have a projection
and the sides that have a readiness query. -/
def artifactIdentities (referenceLocator targetLocator referenceReadiness targetReadiness : Bool) :
    List (PlanDirection × ArtifactPurpose) :=
  (if referenceLocator then [(.reference, .projection)] else []) ++
    (if targetLocator then [(.target, .projection)] else []) ++
    (if referenceReadiness then [(.reference, .readiness)] else []) ++
    if targetReadiness then [(.target, .readiness)] else []

theorem artifactIdentities_nodup : ∀ a b c d, (artifactIdentities a b c d).Nodup := by decide

/-- The artifacts of a check are those its datasets require, in another order. -/
theorem artifactIdentities_required : ∀ a b c d : Bool,
    requireSameIdentities artifactTexts (artifactIdentities a b c d)
      (((if a then [(PlanDirection.reference, ArtifactPurpose.projection)] else []) ++
          (if c then [(.reference, .readiness)] else [])) ++
        ((if b then [(.target, .projection)] else []) ++
          if d then [(.target, .readiness)] else [])) = .ok () := by
  decide

theorem directed_ite {reference target : String} {direction : PlanDirection}
    {purpose : ArtifactPurpose} (present : Bool) :
    (if present then [(directedId reference target direction, direction, purpose)] else [])
      = (if present then [(direction, purpose)] else []).map fun identity =>
        (directedId reference target identity.1, identity) := by
  cases present <;> rfl

theorem planArtifacts_isOk {check : RowCheckDefinition} (hcheck : check.Compiled)
    {referenceItem targetItem : ConsistencyDatasetDefinition}
    (hreference : referenceItem.ReadyFor check.reference)
    (htarget : targetItem.ReadyFor check.target) :
    ∃ artifacts, planArtifacts check referenceItem targetItem = .ok artifacts ∧
      artifacts.map (fun artifact =>
          (artifact.1.datasetId, artifact.1.direction, artifact.1.purpose))
        = (artifactIdentities (locatorArtifact check.reference.locator).isSome
            (locatorArtifact check.target.locator).isSome
            (readinessArtifact referenceItem.readiness).isSome
            (readinessArtifact targetItem.readiness).isSome).map fun identity =>
          (directedId check.reference.datasetId check.target.datasetId identity.1, identity) := by
  have hlocator : ∀ {locator : DatasetLocator}, locator.Compiled →
      ∀ own, locatorArtifact locator = some own → own.Compiled := by
    intro locator hcompiled own hown
    cases locator with
    | relation relation => cases hown
    | sqlArtifact artifact =>
      cases hown
      exact hcompiled
  have hreadiness : ∀ {readiness : ReadinessDefinition}, readiness.Compiled →
      ∀ own, readinessArtifact readiness = some own → own.Compiled := by
    intro readiness hcompiled own hown
    cases readiness with
    | relationManifest manifest => cases hown
    | sqlArtifact artifact =>
      cases hown
      exact hcompiled
  have hreferenceId := hcheck.reference.datasetId
  have htargetId := hcheck.target.datasetId
  rcases planArtifactIfAny_isOk .projection .reference
    (hlocator hcheck.reference.locator) hreferenceId with ⟨first, hfirst, hfirstMap⟩
  rcases planArtifactIfAny_isOk .projection .target
    (hlocator hcheck.target.locator) htargetId with ⟨second, hsecond, hsecondMap⟩
  rcases planArtifactIfAny_isOk .readiness .reference
    (hreadiness hreference.readiness) (hreference.datasetId ▸ hreferenceId) with
    ⟨third, hthird, hthirdMap⟩
  rcases planArtifactIfAny_isOk .readiness .target
    (hreadiness htarget.readiness) (htarget.datasetId ▸ htargetId) with
    ⟨fourth, hfourth, hfourthMap⟩
  refine ⟨first ++ second ++ third ++ fourth, ?_, ?_⟩
  · simp only [planArtifacts, bind_eq_ok, pure_eq_ok]
    exact ⟨first, hfirst, second, hsecond, third, hthird, fourth, hfourth, rfl⟩
  · rw [hreference.datasetId] at hthirdMap
    rw [htarget.datasetId] at hfourthMap
    simp only [List.map_append, hfirstMap, hsecondMap, hthirdMap, hfourthMap, artifactIdentities,
      ← directed_ite]
    rfl

/-! ## Reports -/

theorem isPlain_scopeText (scope : Option RelationScope) : IsPlain (scopeText scope) := by
  cases scope with
  | none => exact isPlain_ofList
  | some own => cases own <;> exact isPlain_ofList

/-- The disclosures of a plan are plain nonblank texts. -/
theorem relationScopeLimitation_text (reference target : PlanDataset) :
    IsPlain (relationScopeLimitation reference target) ∧
      isBlank (relationScopeLimitation reference target) = false := by
  have hreference := isPlain_scopeText reference.1.relationScope
  have htarget := isPlain_scopeText target.1.relationScope
  unfold relationScopeLimitation
  dsimp only
  split
  · constructor
    · rw [isPlain_append]
      exact ⟨isPlain_ofList, isPlain_ofList⟩
    · rw [isBlank_append, isBlank_ofList, Bool.false_and]
  · constructor
    · simp only [isPlain_append, hreference, htarget, and_true]
      exact ⟨⟨⟨isPlain_ofList, isPlain_ofList⟩,
        isPlain_ofList⟩, isPlain_ofList⟩
    · have hhead : isBlank "relation dataset scopes are explicitly selected: reference="
          = false := isBlank_ofList
      simp only [isBlank_append, hhead, Bool.false_and]

/-- One check is found by its name. -/
theorem findCheck_eq_ok {config : LoadedContractConfig} {check : RowCheckDefinition}
    (hdistinct : (config.checks.map RowCheckDefinition.checkId).Nodup)
    (hmem : check ∈ config.checks) (hname : isBlank check.checkId = false) :
    findCheck config check.checkId = .ok check := by
  have hfound : config.checks.filter (fun own => decide (own.checkId = check.checkId))
      = [check] := by
    have hnodup : (config.checks.filter fun own =>
        decide (own.checkId = check.checkId)).Nodup := (List.Nodup.of_map _ hdistinct).filter _
    rw [← List.perm_singleton, List.perm_ext_iff_of_nodup hnodup (List.nodup_singleton _)]
    intro own
    rw [List.mem_filter, decide_eq_true_eq, List.mem_singleton]
    constructor
    · rintro ⟨hown, hid⟩
      exact List.inj_on_of_nodup_map hdistinct hown hmem hid
    · rintro rfl
      exact ⟨hmem, rfl⟩
  rw [findCheck, bind_unit_eq_ok, refuseIf_eq_ok, Bool.not_eq_true, hfound]
  exact ⟨hname, rfl⟩

section Report

variable {plan : PlanReportFields}

/-- A report whose artifacts are those its datasets require passes their check. -/
theorem validatePlanArtifacts_eq_ok {referenceLocator targetLocator : DatasetLocator}
    {referenceReadiness targetReadiness : ReadinessDefinition}
    (hreferenceKind : plan.reference.1.locatorKind = planLocatorKind referenceLocator)
    (htargetKind : plan.target.1.locatorKind = planLocatorKind targetLocator)
    (hreferenceSql : plan.reference.1.readiness.isSql
      = (readinessArtifact referenceReadiness).isSome)
    (htargetSql : plan.target.1.readiness.isSql = (readinessArtifact targetReadiness).isSome)
    (hartifacts : plan.artifacts.map (fun artifact =>
          (artifact.1.datasetId, artifact.1.direction, artifact.1.purpose))
        = (artifactIdentities (locatorArtifact referenceLocator).isSome
            (locatorArtifact targetLocator).isSome (readinessArtifact referenceReadiness).isSome
            (readinessArtifact targetReadiness).isSome).map fun identity =>
          ((plan.dataset identity.1).1.datasetId, identity)) :
    validatePlanArtifacts plan = .ok () := by
  have hkind : ∀ locator : DatasetLocator,
      (planLocatorKind locator = .sql) = ((locatorArtifact locator).isSome = true) := by
    intro locator
    cases locator <;> simp [planLocatorKind, locatorArtifact]
  rw [validatePlanArtifacts, hartifacts, bind_eq_ok]
  refine ⟨_, validateDirected_eq_ok (artifactIdentities_nodup _ _ _ _), ?_⟩
  simp only [requiredArtifacts, hreferenceKind, htargetKind, hreferenceSql, htargetSql, hkind]
  exact artifactIdentities_required _ _ _ _

theorem probeIdentities_nodup : ([] ++ probeIdentities).Nodup := by decide +kernel

section StaticPlan

variable {check : RowCheckDefinition} {scopeDigest contractDigest : String}
  {reference target : PlanDataset} {artifacts : List PlanArtifact} {probes : List PlanProbe}
  {stages : List PlanStage} {estimates : List PlanEstimate}

theorem validateFields_eq_ok (hcheck : check.Compiled)
    (hscope : isSha256Hex scopeDigest = true) (hcontract : isSha256Hex contractDigest = true) :
    (staticPlanFields check scopeDigest contractDigest reference target artifacts probes stages
      estimates).validateFields = .ok () := by
  have hschema := hcheck.schemaDigest
  have hlimitation := (relationScopeLimitation_text reference target).1
  have hkey : ∀ name ∈ check.key, IsPlain name :=
    fun name hname => (hcheck.key.2.each name hname).plain
  simp only [PlanReportFields.validateFields, bind_unit_eq_ok, refuseIf_eq_ok,
    requireDigestHex_eq_ok, requirePlainTexts_eq_ok]
  simp only [staticPlanFields, List.forall_mem_append, List.forall_mem_cons]
  refine ⟨by simp, by decide, by decide, not_lt.mpr hcheck.revision, by simp, hschema, hcontract,
    hscope, ⟨⟨isPlain_ofList, isPlain_ofList, hcheck.checkId.plain, isPlain_ofList,
      isPlain_of_isSha256Hex hschema, isPlain_of_isSha256Hex hcontract,
      isPlain_of_isSha256Hex hscope, by simp⟩, hkey⟩, isPlain_ofList, isPlain_ofList, hlimitation,
    isPlain_ofList, by simp⟩

theorem validateSemantics_eq_ok (hcheck : check.Compiled)
    (hreference : reference.1.direction = .reference) (htarget : target.1.direction = .target)
    (hdatasets : reference.1.datasetId ≠ target.1.datasetId)
    (hartifacts : validatePlanArtifacts (staticPlanFields check scopeDigest contractDigest
      reference target artifacts probes stages estimates) = .ok ())
    (hprobes : validatePlanProbes (staticPlanFields check scopeDigest contractDigest reference
      target artifacts probes stages estimates) = .ok ())
    (hstages : stages.map (fun stage => stage.1.name) = expectedStageNames check.assurancePolicy)
    (hestimates : estimates.map (fun estimate => (estimate.1.name, estimate.1.unit))
      = expectedEstimates) :
    (staticPlanFields check scopeDigest contractDigest reference target artifacts probes stages
      estimates).validateSemantics = .ok () := by
  have hlimitation := (relationScopeLimitation_text reference target).2
  have hkey : ¬ ∃ name ∈ check.key, isBlank name = true := by
    rintro ⟨name, hname, hblank⟩
    rw [(hcheck.key.2.each name hname).nonblank] at hblank
    cases hblank
  simp only [PlanReportFields.validateSemantics, bind_unit_eq_ok, refuseIf_eq_ok,
    requireNonblank_eq_ok, hartifacts, hprobes, true_and, not_not, not_or]
  refine ⟨hcheck.checkId.nonblank, hreference, htarget, hdatasets, ⟨hcheck.key.1, hkey⟩,
    hcheck.key.2.distinct, hstages, hestimates, by simp [staticPlanFields], ?_⟩
  rintro ⟨value, hvalue, hblank⟩
  simp only [staticPlanFields, List.mem_cons, List.not_mem_nil, or_false] at hvalue
  rcases hvalue with rfl | rfl | rfl | rfl
  · rw [isBlank_ofList] at hblank
    cases hblank
  · rw [isBlank_ofList] at hblank
    cases hblank
  · rw [hlimitation] at hblank
    cases hblank
  · rw [isBlank_ofList] at hblank
    cases hblank

end StaticPlan

theorem validatePlanProbes_eq_ok
    (hprobes : plan.probes.map (fun probe => (probe.1.datasetId, probe.1.direction, probe.1.name))
      = probeIdentities.map fun identity => ((plan.dataset identity.1).1.datasetId, identity)) :
    validatePlanProbes plan = .ok () := by
  rw [validatePlanProbes, hprobes, bind_eq_ok]
  refine ⟨_, validateDirected_eq_ok probeIdentities_nodup, ?_⟩
  rw [requireSameIdentities, refuseIf_eq_ok, not_not]
  exact ⟨fun _ hidentity => hidentity, fun _ hidentity => hidentity⟩

end Report

/-- Every check of an accepted contract has a plan for every accepted mapping of scope
values, which passes the validators of the report and of each of its records. -/
theorem static_plan_total (sha256 : Sha256) (source : LoadedContractSource)
    (config : LoadedContractConfig) (h : compileContract sha256 source = .ok config)
    (check : RowCheckDefinition) (hcheck : check ∈ config.checks) (scopeValues : ScopeMapping)
    (scope : ResolvedScope sha256)
    (hscope : resolveScopeValues sha256 check scopeValues = .ok scope) :
    ∃ plan : PlanReport, compileStaticPlan sha256 config check.checkId scopeValues = .ok plan := by
  have hcompiled := (compileContract_check h hcheck).1
  have hfound := findCheck_eq_ok (compileContract_checkIds h) hcheck hcompiled.checkId.nonblank
  rcases hcompiled.consistency with ⟨referenceItem, targetItem, hitems, hready, hready'⟩
  rcases planDataset_isOk sha256 hcompiled.reference hready .reference with
    ⟨reference, hreference, hdirection, hid, hkind, -, hsql⟩
  rcases planDataset_isOk sha256 hcompiled.target hready' .target with
    ⟨target, htarget, hdirection', hid', hkind', -, hsql'⟩
  rcases planArtifacts_isOk hcompiled hready hready' with ⟨artifacts, hartifacts, hartifactMap⟩
  rcases planProbes_isOk hcompiled with ⟨probes, hprobes, hprobeMap⟩
  rcases planStages_isOk check with ⟨stages, hstages, hstageNames⟩
  rcases planEstimates_isOk with ⟨estimates, hestimates, hestimateNames⟩
  have hpasses : (staticPlanFields check scope.scopeDigest.1
      (semanticDigestHex sha256 (contractSemanticValue config.version check)).1 reference target
      artifacts probes stages estimates).validate = .ok () := by
    rw [PlanReportFields.validate, bind_unit_eq_ok]
    have hdatasets : reference.1.datasetId ≠ target.1.datasetId := by
      rw [hid, hid']
      exact hcompiled.datasets
    have hdirected : ∀ direction, ((staticPlanFields check scope.scopeDigest.1
        (semanticDigestHex sha256 (contractSemanticValue config.version check)).1 reference target
        artifacts probes stages estimates).dataset direction).1.datasetId
          = directedId check.reference.datasetId check.target.datasetId direction := by
      intro direction
      cases direction
      · exact hid
      · exact hid'
    constructor
    · exact validateFields_eq_ok hcompiled scope.scopeDigest.2 (semanticDigestHex ..).2
    · refine validateSemantics_eq_ok hcompiled hdirection hdirection' hdatasets ?_ ?_ hstageNames
        hestimateNames
      · refine validatePlanArtifacts_eq_ok hkind hkind' hsql hsql' ?_
        simp only [hdirected]
        exact hartifactMap
      · refine validatePlanProbes_eq_ok ?_
        simp only [hdirected]
        exact hprobeMap
  refine ⟨⟨_, hpasses⟩, ?_⟩
  rw [compileStaticPlan, hfound]
  simp only [bind_eq_ok, Except.ok.injEq]
  refine ⟨check, rfl, scope, hscope, ?_⟩
  rw [hitems]
  simp only [bind_eq_ok, refuseIf_eq_ok]
  exact ⟨(), by simp [hready.datasetId, hready'.datasetId], reference, hreference, target, htarget,
    artifacts, hartifacts, probes, hprobes, stages, hstages, estimates, hestimates,
    validated_eq_ok hpasses⟩

/-- The check of `amountContract` has a plan for one amount. -/
theorem static_plan_total_amount :
    ∃ config, compileContract constantDigest amountContract = .ok config ∧
      ∃ check ∈ config.checks, ∃ plan,
        compileStaticPlan constantDigest config check.checkId (amountMapping "1.5") = .ok plan := by
  have h : (match compileContract constantDigest amountContract with
      | .ok config => config.checks.any fun check =>
        (resolveScopeValues constantDigest check (amountMapping "1.5")).isOk
      | .error _ => false) = true := by
    decide +kernel
  cases hcompiled : compileContract constantDigest amountContract with
  | error refusal =>
    rw [hcompiled] at h
    cases h
  | ok config =>
    rw [hcompiled] at h
    rcases List.any_eq_true.mp h with ⟨check, hcheck, hresolved⟩
    rcases exists_eq_ok hresolved with ⟨scope, hscope⟩
    rcases static_plan_total constantDigest amountContract config hcompiled check hcheck
      (amountMapping "1.5") scope hscope with ⟨plan, hplan⟩
    exact ⟨config, rfl, check, hcheck, plan, hplan⟩

end ForensicData.Planning
