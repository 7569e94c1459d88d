/-
ForensicData.Persistence.EvidenceAgreement — the records the engine writes.

The record of a difference shows what the policy says by construction, with
canonical texts, so the boundary of the same policy admits it as far as the key
is concerned (`evidenceRecord_admitted`); and a record shown in another way, with
another digest or with another text is refused (`evidence_boundary_agreement`).
-/
import ForensicData.Comparison.Leaves
import ForensicData.Persistence.EvidenceBoundaryTheorems

namespace ForensicData.Persistence

open ForensicData.Canonical
open ForensicData.Comparison
open ForensicData.Contracts
open ForensicData.Lib
open ForensicData.Reporting

/-! ## Values -/

theorem requireConstraints_eq_ok {value : EvidenceFieldValue} (hname : value.fieldName ≠ "")
    (hprecision : requireRange 1 38 value.decimalPrecision = .ok ())
    (hscale : requireRange 0 38 value.decimalScale = .ok ())
    (htimestamp : requireRange 0 9 value.timestampPrecision = .ok ())
    (hhex : value.canonicalHex = none) :
    EvidenceFieldValue.requireConstraints value = .ok () := by
  unfold EvidenceFieldValue.requireConstraints
  simp only [bind_unit_eq_ok, refuseIf_eq_ok, hhex]
  exact ⟨hname, hprecision, hscale, htimestamp, trivial⟩

/-- The type parameters of a field satisfy the constraints on them. -/
theorem fieldTypeParameters_valid (field : FieldSchema) :
    requireRange 1 38 (fieldTypeParameters field).1 = .ok () ∧
      requireRange 0 38 (fieldTypeParameters field).2.1 = .ok () ∧
      requireRange 0 9 (fieldTypeParameters field).2.2 = .ok () := by
  unfold fieldTypeParameters
  split
  · rename_i parameters hparameters
    have := parameters.precision_pos
    have := parameters.precision_le
    have := parameters.scale_le
    refine ⟨?_, ?_, rfl⟩ <;> simp only [requireRange, bind_unit_eq_ok, refuseIf_eq_ok] <;> omega
  · rename_i parameters hparameters
    have := parameters.precision_le
    refine ⟨rfl, rfl, ?_⟩
    simp only [requireRange, bind_unit_eq_ok, refuseIf_eq_ok]
    omega
  · exact ⟨rfl, rfl, rfl⟩

theorem validateTypeParameters_eq_ok (field : FieldSchema) {value : EvidenceFieldValue}
    (htype : value.logicalType = field.logicalType)
    (hparameters : (value.decimalPrecision, value.decimalScale, value.timestampPrecision)
      = fieldTypeParameters field) :
    EvidenceFieldValue.validateTypeParameters value = .ok () := by
  have hprecision : value.decimalPrecision = (fieldTypeParameters field).1 := by
    rw [← hparameters]
  have hscale : value.decimalScale = (fieldTypeParameters field).2.1 := by
    rw [← hparameters]
  have htimestamp : value.timestampPrecision = (fieldTypeParameters field).2.2 := by
    rw [← hparameters]
  obtain ⟨name, logicalType, nullable, parameters, normalization, fits⟩ := field
  unfold fieldTypeParameters at hprecision hscale htimestamp
  simp only at htype hprecision hscale htimestamp
  unfold EvidenceFieldValue.validateTypeParameters EvidenceFieldValue.validateTypeParameters.timestampParameters
  cases parameters with
  | none =>
    simp only at hprecision hscale htimestamp
    cases logicalType <;> first | cases fits; done | skip
    all_goals
      rw [htype, hprecision, hscale, htimestamp]
      simp
  | decimal parameters =>
    simp only at hprecision hscale htimestamp
    have hle := parameters.scale_le
    cases logicalType <;> cases fits
    rw [htype, hprecision, hscale, htimestamp]
    simp [hle]
  | timestamp parameters =>
    simp only at hprecision hscale htimestamp
    cases logicalType <;> cases fits
    all_goals
      rw [htype, hprecision, hscale, htimestamp]
      simp

theorem make_eq_ok {value : EvidenceFieldValue}
    (hconstraints : EvidenceFieldValue.requireConstraints value = .ok ())
    (hvalue : EvidenceFieldValue.validateValue value = .ok ()) :
    EvidenceFieldValue.make value = .ok value := by
  unfold EvidenceFieldValue.make
  rw [bind_unit_eq_ok, bind_unit_eq_ok]
  exact ⟨hconstraints, hvalue, rfl⟩

theorem make_redactedValue {field : FieldSchema} (hname : field.name ≠ "") :
    EvidenceFieldValue.make (redactedValue field) = .ok (redactedValue field) := by
  obtain ⟨hprecision, hscale, htimestamp⟩ := fieldTypeParameters_valid field
  refine make_eq_ok (requireConstraints_eq_ok hname hprecision hscale htimestamp rfl) ?_
  unfold EvidenceFieldValue.validateValue
  rw [bind_unit_eq_ok]
  refine ⟨validateTypeParameters_eq_ok field rfl rfl, ?_⟩
  simp [redactedValue]

theorem make_storedValue {field : FieldSchema} (hname : field.name ≠ "")
    (value : Option DecodedValue) :
    EvidenceFieldValue.make (storedValue field value) = .ok (storedValue field value) := by
  obtain ⟨hprecision, hscale, htimestamp⟩ := fieldTypeParameters_valid field
  refine make_eq_ok (requireConstraints_eq_ok hname hprecision hscale htimestamp rfl) ?_
  unfold EvidenceFieldValue.validateValue
  rw [bind_unit_eq_ok]
  refine ⟨validateTypeParameters_eq_ok field rfl rfl, ?_⟩
  cases value <;> simp [storedValue, EvidenceFieldValue.valueCount]

/-- A value as a policy that does not omit its field shows it. -/
def shownValue (action : EvidenceAction) (field : FieldSchema) (value : Option DecodedValue) :
    EvidenceFieldValue :=
  if action = .store then storedValue field value else redactedValue field

theorem evidenceFieldValue_eq_ok {field : FieldSchema} (hname : field.name ≠ "")
    (value : Option DecodedValue) {action : EvidenceAction} (haction : action ≠ .omit) :
    evidenceFieldValue field value action = .ok (shownValue action field value) := by
  cases action with
  | store => exact make_storedValue hname value
  | redact => exact make_redactedValue hname
  | _ => exact absurd rfl haction

@[simp] theorem shownValue_fieldName (action : EvidenceAction) (field : FieldSchema)
    (value : Option DecodedValue) : (shownValue action field value).fieldName = field.name := by
  unfold shownValue
  split <;> rfl

/-- A value that is decoded under the field. -/
def DecodedUnder (field : FieldSchema) (value : Option DecodedValue) : Prop :=
  ∀ decoded ∈ value, ∃ payload, decodePayload field payload = .ok decoded

theorem comparisonField_parameters (field : FieldSchema) :
    ((comparisonField field).decimalPrecision, (comparisonField field).decimalScale,
      (comparisonField field).timestampPrecision) = fieldTypeParameters field := by
  unfold comparisonField fieldTypeParameters
  split <;> simp_all

theorem hasTypeOf_parameters {field : FieldSchema} {value : EvidenceFieldValue}
    (htype : value.logicalType = field.logicalType)
    (hparameters : (value.decimalPrecision, value.decimalScale, value.timestampPrecision)
      = fieldTypeParameters field) : HasTypeOf value (comparisonField field) := by
  rw [← comparisonField_parameters, Prod.mk.injEq, Prod.mk.injEq] at hparameters
  exact ⟨htype.trans (comparisonField_logicalType field).symm, hparameters⟩

/-- What the policy shows of a decoded value is admitted. -/
theorem shownAs_shownValue {fields : List FieldSchema} {policy : EvidenceDefinition}
    {field : FieldSchema} (hfield : field ∈ fields) {value : Option DecodedValue}
    (hvalue : DecodedUnder field value) :
    ShownAs fields policy (shownValue (policyAction policy field.name) field value) := by
  refine ⟨field, hfield, shownValue_fieldName .., ?_⟩
  unfold shownValue
  split
  · rename_i hstore
    refine ⟨hasTypeOf_parameters rfl rfl, by rw [hstore]; rfl, ?_⟩
    intro _ hnull
    refine ⟨rfl, ?_⟩
    cases value with
    | none => exact absurd rfl hnull
    | some decoded =>
      obtain ⟨payload, hdecode⟩ := hvalue decoded rfl
      exact ⟨_, rfl, payload, decoded, hdecode, rfl⟩
  · rename_i hstore
    refine ⟨hasTypeOf_parameters rfl rfl, ?_, ?_⟩
    · cases haction : policyAction policy field.name with
      | store => exact absurd haction hstore
      | _ => rfl
    · intro hstored
      cases hstored

/-! ## Groups -/

/-- The values a policy shows of a group. -/
def groupOf (shown : FieldSchema → Bool) (policy : EvidenceDefinition) :
    List FieldSchema → List (Option DecodedValue) → List EvidenceFieldValue
  | field :: fields, value :: values =>
    if shown field = true ∧ policyAction policy field.name ≠ .omit then
      shownValue (policyAction policy field.name) field value :: groupOf shown policy fields values
    else groupOf shown policy fields values
  | _, _ => []

/-- The fields of a group that a policy shows. -/
def shownFields (shown : FieldSchema → Bool) (policy : EvidenceDefinition)
    (fields : List FieldSchema) : List FieldSchema :=
  fields.filter fun field => shown field && decide (policyAction policy field.name ≠ .omit)

variable {policy : EvidenceDefinition} {shown : FieldSchema → Bool}

theorem groupValues_eq {fields : List FieldSchema} (hnames : "" ∉ fields.map FieldSchema.name)
    (values : List (Option DecodedValue)) :
    groupValues shown fields values (fields.map fun field => policyAction policy field.name)
      = .ok (groupOf shown policy fields values) := by
  induction fields generalizing values with
  | nil => cases values <;> rfl
  | cons field fields ih =>
    rw [List.map_cons, List.mem_cons, not_or] at hnames
    cases values with
    | nil => rfl
    | cons value values =>
      rw [List.map_cons, groupValues, groupOf, ih hnames.2]
      split
      · rename_i hshown
        rw [evidenceFieldValue_eq_ok (Ne.symm hnames.1) value hshown.2]
        rfl
      · rfl

theorem map_groupOf {fields : List FieldSchema} {values : List (Option DecodedValue)}
    (hlength : values.length = fields.length) :
    (groupOf shown policy fields values).map EvidenceFieldValue.fieldName
      = (shownFields shown policy fields).map FieldSchema.name := by
  induction fields generalizing values with
  | nil => cases values <;> rfl
  | cons field fields ih =>
    cases values with
    | nil => simp at hlength
    | cons value values =>
      have hlength : values.length = fields.length := by simpa using hlength
      rw [groupOf, shownFields, List.filter_cons, ← shownFields]
      by_cases hshown : shown field = true ∧ policyAction policy field.name ≠ .omit
      · rw [if_pos hshown, if_pos (by simpa using hshown), List.map_cons, List.map_cons, ih hlength,
          shownValue_fieldName]
      · rw [if_neg hshown, if_neg (by simpa using hshown), ih hlength]

/-- A value of a group comes from its field and its place. -/
theorem mem_groupOf {fields : List FieldSchema} {values : List (Option DecodedValue)}
    {item : EvidenceFieldValue} (h : item ∈ groupOf shown policy fields values) :
    ∃ field value, (field, value) ∈ fields.zip values ∧ shown field = true ∧
      item = shownValue (policyAction policy field.name) field value := by
  induction fields generalizing values with
  | nil => cases values <;> simp [groupOf] at h
  | cons field fields ih =>
    cases values with
    | nil => simp [groupOf] at h
    | cons value values =>
      have hrest : item ∈ groupOf shown policy fields values →
          ∃ other found, (other, found) ∈ (field :: fields).zip (value :: values) ∧
            shown other = true ∧ item = shownValue (policyAction policy other.name) other found := by
        intro hmem
        obtain ⟨other, found, hzip, hother⟩ := ih hmem
        exact ⟨other, found, List.mem_cons_of_mem _ hzip, hother⟩
      rw [groupOf] at h
      split at h
      · rename_i hshown
        rcases List.mem_cons.mp h with rfl | h
        · exact ⟨field, value, List.mem_cons_self, hshown.1, rfl⟩
        · exact hrest h
      · exact hrest h

/-- A group of decoded values is admitted under the names it shows. -/
theorem groupAdmitted_groupOf {fields : List FieldSchema} {values : List (Option DecodedValue)}
    (hvalues : List.Forall₂ DecodedUnder fields values) :
    GroupAdmitted fields policy ((shownFields shown policy fields).map FieldSchema.name)
      (groupOf shown policy fields values) := by
  refine ⟨map_groupOf hvalues.length_eq.symm, fun item hitem => ?_⟩
  obtain ⟨field, value, hzip, -, rfl⟩ := mem_groupOf hitem
  exact shownAs_shownValue (List.of_mem_zip hzip).1 ((List.forall₂_iff_zip.mp hvalues).2 hzip)

theorem shownFields_side (fields : List FieldSchema) (key : List String) :
    (shownFields (fun field => !isKeyField key field) policy fields).map FieldSchema.name
      = shownSideNames policy (fields.map FieldSchema.name) key := by
  unfold shownFields shownSideNames isKeyField
  rw [List.filter_map]
  congr 1
  refine List.filter_congr fun field _ => ?_
  simp

/-- The names of the key that are shown, in the order of the schema. -/
theorem shownFields_key (fields : List FieldSchema) (key : List String) :
    (shownFields (isKeyField key) policy fields).map FieldSchema.name
      = (fields.map FieldSchema.name).filter (· ∈ shownKeyNames policy key) := by
  unfold shownFields shownKeyNames isKeyField
  rw [List.filter_map]
  congr 1
  refine List.filter_congr fun field _ => ?_
  simp

/-! ## Differences -/

/-- A difference between rows that are decoded under the fields: the key is not
NULL, and a side has a row unless the kind says otherwise. -/
structure DecodedDifference (fields : List FieldSchema) (key : List String)
    (difference : ExactDifference) : Prop where
  keyRow : List.Forall₂ DecodedUnder fields difference.keyRow.values
  key_present : ∀ field value, (field, value) ∈ fields.zip difference.keyRow.values →
    field.name ∈ key → value ≠ none
  referenceRow : ∀ row ∈ difference.referenceRow, List.Forall₂ DecodedUnder fields row.values
  targetRow : ∀ row ∈ difference.targetRow, List.Forall₂ DecodedUnder fields row.values
  reference_none : difference.referenceRow = none ↔ difference.kind = .extra
  target_none : difference.targetRow = none ↔ difference.kind = .missing

/-! ## Records -/

variable {fields : List FieldSchema} {key : List String} {boundary : ComparisonEvidenceBoundary}
  {difference : ExactDifference}

theorem evidenceActions_policy (h : BoundaryOf fields key policy boundary) :
    evidenceActions fields policy
      = .ok (fields.map fun field => policyAction policy field.name) := by
  rw [evidenceActions_eq_ok, policy_actions_eq, List.map_map]
  exact ⟨h.within, rfl⟩

theorem sideEvidenceValues_eq (h : BoundaryOf fields key policy boundary) {row : Option ExactRow}
    (hrow : ∀ item ∈ row, List.Forall₂ DecodedUnder fields item.values) :
    ∃ values, sideEvidenceValues row fields
        (fields.map fun field => policyAction policy field.name) key = .ok values ∧
      GroupAdmitted fields policy (if row = none then []
        else shownSideNames policy (fields.map FieldSchema.name) key) values := by
  cases row with
  | none => exact ⟨[], rfl, rfl, by simp⟩
  | some row =>
    have hvalues := hrow row rfl
    refine ⟨groupOf (fun field => !isKeyField key field) policy fields row.values, ?_, ?_⟩
    · rw [sideEvidenceValues, bind_unit_eq_ok, refuseIf_eq_ok, groupValues_eq h.named]
      exact ⟨fun hlength => hlength hvalues.length_eq.symm, rfl⟩
    · rw [if_neg (by simp), ← shownFields_side]
      exact groupAdmitted_groupOf hvalues

theorem allKeyFieldsStored_iff (h : BoundaryOf fields key policy boundary) :
    allKeyFieldsStored fields (fields.map fun field => policyAction policy field.name) key = true ↔
      ∀ name ∈ key, policyAction policy name = .store := by
  unfold allKeyFieldsStored isKeyField
  rw [zip_map_self, List.all_map, List.all_eq_true]
  constructor
  · intro hall name hname
    obtain ⟨field, hfield, rfl⟩ := List.mem_map.mp (h.key_mem name hname)
    simpa [hname] using hall field hfield
  · intro hall field _
    by_cases hname : field.name ∈ key
    · simp [hall _ hname]
    · simp [hname]

theorem namesWith_omit (fields : List FieldSchema) (policy : EvidenceDefinition) :
    namesWith .omit fields (fields.map fun field => policyAction policy field.name)
      = omittedNames policy (fields.map FieldSchema.name) := by
  unfold namesWith omittedNames
  rw [zip_map_self, List.filter_map, List.map_map, List.filter_map]
  rfl

/-- Stored values of distinct fields have a digest. -/
theorem exists_keyDigest (sha256 : Sha256) {values : List EvidenceFieldValue} (hne : values ≠ [])
    (hnodup : (values.map EvidenceFieldValue.fieldName).Nodup)
    (hstored : ∀ value ∈ values, value.availability = .stored) :
    ∃ digest, keyDigest sha256 values = .ok digest := by
  have hall : ∀ refusal, refuseIf (values = [] ∨ ∃ value ∈ values, value.availability ≠ .stored)
      refusal = .ok () := by
    intro refusal
    rw [refuseIf_eq_ok]
    rintro (hempty | ⟨value, hvalue, hother⟩)
    · exact hne hempty
    · exact hother (hstored value hvalue)
  have hunique : requireUniqueFieldNames values "difference key values" = .ok () :=
    refuseIf_eq_ok.mpr (not_not.mpr hnodup)
  unfold keyDigest canonicalDifferenceKeyBytes
  rw [hunique]
  change ∃ digest, ((refuseIf _ _ >>= _) >>= _) = _
  rw [hall]
  exact ⟨_, rfl⟩

/-- A body whose groups are admitted passes its own validation. -/
theorem make_body_eq_ok (h : BoundaryOf fields key policy boundary) {sha256 : Sha256}
    {kind : DifferenceKind} {body : DifferenceBody} {keyNames referenceNames targetNames : List String}
    (homitted : body.omittedFieldNames = omittedNames policy (fields.map FieldSchema.name))
    (hkey : GroupAdmitted fields policy keyNames body.keyValues)
    (hkeyNames : keyNames.Sublist (fields.map FieldSchema.name) ∧
      ∀ name ∈ keyNames, policyAction policy name ≠ .omit)
    (hreference : GroupAdmitted fields policy referenceNames body.referenceValues)
    (hreferenceNames : referenceNames.Sublist (fields.map FieldSchema.name) ∧
      ∀ name ∈ referenceNames, policyAction policy name ≠ .omit)
    (htarget : GroupAdmitted fields policy targetNames body.targetValues)
    (htargetNames : targetNames.Sublist (fields.map FieldSchema.name) ∧
      ∀ name ∈ targetNames, policyAction policy name ≠ .omit)
    (hvalidKey : DifferenceBody.validateKey sha256 body = .ok ())
    (hmissing : kind = .missing → body.targetValues = [])
    (hextra : kind = .extra → body.referenceValues = []) :
    DifferenceBody.make sha256 kind body = .ok body := by
  have hunique : ∀ (values : List EvidenceFieldValue) (names : List String) (context : String),
      GroupAdmitted fields policy names values → names.Sublist (fields.map FieldSchema.name) →
        requireUniqueFieldNames values context = .ok () := by
    intro values names context hvalues hnames
    unfold requireUniqueFieldNames
    rw [refuseIf_eq_ok, not_not, hvalues.1]
    exact h.nodup.sublist hnames
  unfold DifferenceBody.make DifferenceBody.validateRecord
  simp only [bind_unit_eq_ok, refuseIf_eq_ok]
  refine ⟨?_, ⟨hunique _ _ _ hkey hkeyNames.1, hunique _ _ _ hreference hreferenceNames.1,
    hunique _ _ _ htarget htargetNames.1, ?_, ?_, hvalidKey, ?_, ?_⟩, trivial⟩
  · rw [homitted]
    exact fun hempty => h.named (List.mem_filter.mp hempty).1
  · rw [not_not, homitted]
    exact h.nodup.sublist List.filter_sublist
  · rintro ⟨name, hname, hmem⟩
    rw [homitted, omittedNames, List.mem_filter, decide_eq_true_eq] at hmem
    rw [DifferenceBody.representedNames, List.map_append, List.map_append, hkey.1, hreference.1,
      htarget.1, List.mem_append, List.mem_append] at hname
    rcases hname with (hname | hname) | hname
    · exact hkeyNames.2 name hname hmem.2
    · exact hreferenceNames.2 name hname hmem.2
    · exact htargetNames.2 name hname hmem.2
  · exact fun hkind => hkind.2 (hmissing hkind.1)
  · exact fun hkind => hkind.2 (hextra hkind.1)

/-- The key values of a difference whose key is stored whole. -/
theorem stored_keyValues (hdifference : DecodedDifference fields key difference)
    (hstored : ∀ name ∈ key, policyAction policy name = .store) {value : EvidenceFieldValue}
    (hvalue : value ∈ groupOf (isKeyField key) policy fields difference.keyRow.values) :
    value.availability = .stored ∧ value.isNull ≠ some true := by
  obtain ⟨field, item, hzip, hfield, rfl⟩ := mem_groupOf hvalue
  have hname : field.name ∈ key := by simpa [isKeyField] using hfield
  have hpresent := hdifference.key_present field item hzip hname
  rw [shownValue, if_pos (hstored _ hname)]
  refine ⟨rfl, ?_⟩
  simp [storedValue, hpresent]

/-- A key that is stored whole is not empty. -/
theorem shownKeyNames_ne (h : BoundaryOf fields key policy boundary)
    (hstored : ∀ name ∈ key, policyAction policy name = .store) :
    (fields.map FieldSchema.name).filter (· ∈ shownKeyNames policy key) ≠ [] := by
  obtain ⟨name, hname⟩ := List.exists_mem_of_ne_nil key h.key_ne
  have hshown : name ∈ shownKeyNames policy key := by
    rw [shownKeyNames, List.mem_filter, hstored name hname]
    exact ⟨hname, rfl⟩
  refine List.ne_nil_of_mem (List.mem_filter.mpr ⟨h.key_mem name hname, ?_⟩)
  exact decide_eq_true hshown

/-- What the record of a difference shows. -/
structure Written (sha256 : Sha256) (fields : List FieldSchema) (key : List String)
    (policy : EvidenceDefinition) (record : EvidenceRecord) : Prop where
  omitted : record.body.omittedFieldNames = omittedNames policy (fields.map FieldSchema.name)
  keyValues : GroupAdmitted fields policy
    ((fields.map FieldSchema.name).filter (· ∈ shownKeyNames policy key)) record.body.keyValues
  referenceValues : GroupAdmitted fields policy
    (if record.kind = .extra then []
      else shownSideNames policy (fields.map FieldSchema.name) key) record.body.referenceValues
  targetValues : GroupAdmitted fields policy
    (if record.kind = .missing then []
      else shownSideNames policy (fields.map FieldSchema.name) key) record.body.targetValues
  keyDigest : KeyAdmitted sha256 policy key record.body

theorem exists_evidenceRecord (h : BoundaryOf fields key policy boundary) (sha256 : Sha256)
    (hdifference : DecodedDifference fields key difference) (sequence : ℕ) :
    ∃ record, evidenceRecord sha256 fields key policy sequence difference = .ok record ∧
      record.kind = difference.kind ∧ Written sha256 fields key policy record := by
  obtain ⟨referenceValues, hreference, hreferenceAdmitted⟩ :=
    sideEvidenceValues_eq h hdifference.referenceRow
  obtain ⟨targetValues, htarget, htargetAdmitted⟩ :=
    sideEvidenceValues_eq h hdifference.targetRow
  simp only [hdifference.reference_none] at hreferenceAdmitted
  simp only [hdifference.target_none] at htargetAdmitted
  have hkeyAdmitted := @groupAdmitted_groupOf policy (isKeyField key) _ _ hdifference.keyRow
  rw [shownFields_key] at hkeyAdmitted
  -- the digest, and that it passes the record's own check
  have hdigest : ∃ digest, (if ∀ name ∈ key, policyAction policy name = .store then
        (keyDigest sha256 (groupOf (isKeyField key) policy fields difference.keyRow.values)).map some
      else .ok none) = .ok digest ∧
      let body : DifferenceBody :=
        { keyAvailability := if ∀ name ∈ key, policyAction policy name = .store then .available
            else .keysetUnavailable
          keyDigest := digest
          omittedFieldNames := omittedNames policy (fields.map FieldSchema.name)
          keyValues := groupOf (isKeyField key) policy fields difference.keyRow.values
          referenceValues, targetValues }
      DifferenceBody.validateKey sha256 body = .ok () ∧ KeyAdmitted sha256 policy key body := by
    by_cases hstored : ∀ name ∈ key, policyAction policy name = .store
    · have hne : groupOf (isKeyField key) policy fields difference.keyRow.values ≠ [] := by
        intro hempty
        rw [hempty] at hkeyAdmitted
        exact shownKeyNames_ne h hstored hkeyAdmitted.1.symm
      have hvalues := fun value hvalue => @stored_keyValues policy fields key difference hdifference
        hstored value hvalue
      obtain ⟨digest, hdigest⟩ := exists_keyDigest sha256 hne
        (hkeyAdmitted.1 ▸ h.nodup.sublist List.filter_sublist)
        (fun value hvalue => (hvalues value hvalue).1)
      refine ⟨some digest, ?_, ?_, ?_⟩
      · rw [if_pos hstored, hdigest]
        rfl
      · simp only [if_pos hstored, DifferenceBody.validateKey]
        rw [hdigest, bind_unit_eq_ok, refuseIf_eq_ok, bind_unit_eq_ok, refuseIf_eq_ok, bind_eq_ok]
        refine ⟨?_, by simp, digest, rfl, by simp⟩
        rintro (hempty | ⟨value, hvalue, hother⟩)
        · exact hne hempty
        · exact hother (hvalues value hvalue).1
      · unfold KeyAdmitted
        simp only [if_pos hstored]
        exact ⟨fun value hvalue => (hvalues value hvalue).2, trivial, digest, hdigest, rfl⟩
    · refine ⟨none, by rw [if_neg hstored], ?_, ?_⟩
      · simp [if_neg hstored, DifferenceBody.validateKey]
      · unfold KeyAdmitted
        simp only [if_neg hstored]
        exact ⟨trivial, trivial⟩
  obtain ⟨digest, hdigest, hvalid, hadmitted⟩ := hdigest
  have hkeyShown : ∀ name ∈ (fields.map FieldSchema.name).filter (· ∈ shownKeyNames policy key),
      policyAction policy name ≠ .omit := by
    intro name hname
    have hmem := of_decide_eq_true (List.mem_filter.mp hname).2
    exact of_decide_eq_true (List.mem_filter.mp hmem).2
  have hsideShown : ∀ (absent : Prop) [Decidable absent],
      (if absent then [] else shownSideNames policy (fields.map FieldSchema.name) key).Sublist
          (fields.map FieldSchema.name) ∧
        ∀ name ∈ (if absent then [] else shownSideNames policy (fields.map FieldSchema.name) key),
          policyAction policy name ≠ .omit := by
    intro absent _
    split
    · simp
    · exact ⟨List.filter_sublist, fun name hname =>
        (of_decide_eq_true (List.mem_filter.mp hname).2).2⟩
  have hempty : ∀ {absent : Prop} [Decidable absent] {values : List EvidenceFieldValue},
      GroupAdmitted fields policy
        (if absent then [] else shownSideNames policy (fields.map FieldSchema.name) key) values →
      absent → values = [] := by
    intro absent _ values hvalues habsent
    have hnames := hvalues.1
    rw [if_pos habsent] at hnames
    exact List.map_eq_nil_iff.mp hnames
  have hmake := make_body_eq_ok h rfl hkeyAdmitted ⟨List.filter_sublist, hkeyShown⟩
    hreferenceAdmitted (hsideShown _) htargetAdmitted (hsideShown _) hvalid
    (hempty htargetAdmitted) (hempty hreferenceAdmitted)
  refine ⟨{ sequence, segmentSequence := difference.segmentSequence, kind := difference.kind
            body := { keyAvailability := if ∀ name ∈ key, policyAction policy name = .store then
                        .available else .keysetUnavailable
                      keyDigest := digest
                      omittedFieldNames := omittedNames policy (fields.map FieldSchema.name)
                      keyValues := groupOf (isKeyField key) policy fields difference.keyRow.values
                      referenceValues, targetValues } }, ?_, rfl,
    { omitted := rfl, keyValues := hkeyAdmitted, referenceValues := hreferenceAdmitted
      targetValues := htargetAdmitted, keyDigest := hadmitted }⟩
  have hall : (allKeyFieldsStored fields (fields.map fun field => policyAction policy field.name)
      key = true) = ∀ name ∈ key, policyAction policy name = .store :=
    propext (allKeyFieldsStored_iff h)
  unfold evidenceRecord differenceBody
  rw [evidenceActions_policy h]
  have hlength : ¬ difference.keyRow.values.length ≠ fields.length :=
    not_not.mpr hdifference.keyRow.length_eq.symm
  refine bind_eq_ok.mpr ⟨_, ?_, rfl⟩
  refine bind_unit_eq_ok.mpr ⟨refuseIf_eq_ok.mpr hlength, ?_⟩
  refine bind_eq_ok.mpr ⟨_, rfl, ?_⟩
  refine bind_eq_ok.mpr ⟨_, groupValues_eq h.named _, ?_⟩
  refine bind_eq_ok.mpr ⟨digest, ?_, ?_⟩
  · unfold storedKeyDigest
    simp only [hall]
    exact hdigest
  · refine bind_eq_ok.mpr ⟨referenceValues, hreference, ?_⟩
    refine bind_eq_ok.mpr ⟨targetValues, htarget, ?_⟩
    simp only [hall, namesWith_omit]
    exact hmake

/-! ## Agreement -/

/-- The names a record omits, and those it shows with how they are shown. -/
def placement (record : EvidenceRecord) :
    List String × List (List (String × EvidenceValueAvailability)) :=
  (record.body.omittedFieldNames, record.body.groups.map fun group =>
    group.map fun value => (value.fieldName, value.availability))

/-- A value shown in the record is not canonical for its field. -/
def ShowsNonCanonical (fields : List FieldSchema) (record : EvidenceRecord) : Prop :=
  ∃ group ∈ record.body.groups, ∃ value ∈ group, ∃ field ∈ fields,
    value.fieldName = field.name ∧ ¬ IsCanonicalFor field value

/-- The other record shows a field in another way, has another digest for the
same key or shows a text that is not canonical. -/
def ShownOtherwise (fields : List FieldSchema) (record other : EvidenceRecord) : Prop :=
  placement other ≠ placement record ∨
    (other.body.keyValues = record.body.keyValues ∧
      other.body.keyDigest ≠ record.body.keyDigest) ∨
    ShowsNonCanonical fields other

theorem GroupAdmitted.placed {fields : List FieldSchema} {names : List String}
    {values : List EvidenceFieldValue} (h : GroupAdmitted fields policy names values) :
    values.map (fun value => (value.fieldName, value.availability))
      = names.map fun name => (name, availabilityOf (policyAction policy name)) := by
  rw [← h.1, List.map_map]
  refine List.map_congr_left fun value hvalue => ?_
  obtain ⟨field, -, hname, -, havailability, -⟩ := h.2 value hvalue
  rw [Function.comp_apply, havailability, hname]

theorem GroupAdmitted.canonical (h : BoundaryOf fields key policy boundary) {names : List String}
    {values : List EvidenceFieldValue} (hgroup : GroupAdmitted fields policy names values)
    {value : EvidenceFieldValue} (hvalue : value ∈ values) {field : FieldSchema}
    (hfield : field ∈ fields) (hname : value.fieldName = field.name) :
    IsCanonicalFor field value := by
  obtain ⟨other, hother, hsame, -, -, hcanonical⟩ := hgroup.2 value hvalue
  have hfields : other = field :=
    List.inj_on_of_nodup_map h.nodup hother hfield (hsame.symm.trans hname)
  rwa [hfields] at hcanonical

theorem KeyAdmitted.digest_eq {sha256 : Sha256} {body other : DifferenceBody}
    (hbody : KeyAdmitted sha256 policy key body) (hother : KeyAdmitted sha256 policy key other)
    (hvalues : other.keyValues = body.keyValues) : other.keyDigest = body.keyDigest := by
  unfold KeyAdmitted at hbody hother
  split at hbody
  · rename_i hstored
    rw [if_pos hstored, hvalues] at hother
    obtain ⟨-, -, digest, hdigest, hbody⟩ := hbody
    obtain ⟨-, -, otherDigest, hotherDigest, hother⟩ := hother
    rw [hdigest, Except.ok.injEq] at hotherDigest
    rw [hbody, hother, hotherDigest]
  · rename_i hstored
    rw [if_neg hstored] at hother
    rw [hbody.2, hother.2]

/-- What is admitted beside a written record of its kind is shown as that is. -/
theorem not_shownOtherwise (h : BoundaryOf fields key policy boundary) {sha256 : Sha256}
    {record other : EvidenceRecord} (hwritten : Written sha256 fields key policy record)
    (hother : Admits sha256 fields key policy other) (hkind : other.kind = record.kind) :
    ¬ ShownOtherwise fields record other := by
  have hreference := hother.referenceValues
  have htarget := hother.targetValues
  have hkey := hother.keyValues
  rw [hother.shows.1] at hkey
  rw [hkind] at hreference htarget
  rintro (hplacement | ⟨hvalues, hdigest⟩ | ⟨group, hgroup, value, hvalue, field, hfield, hname,
    hcanonical⟩)
  · refine hplacement ?_
    simp only [placement, DifferenceBody.groups, List.map_cons, List.map_nil]
    rw [hother.omitted, hwritten.omitted, hkey.placed, hwritten.keyValues.placed,
      hreference.placed, hwritten.referenceValues.placed, htarget.placed,
      hwritten.targetValues.placed]
  · exact hdigest (hwritten.keyDigest.digest_eq hother.keyDigest hvalues)
  · refine hcanonical ?_
    simp only [DifferenceBody.groups, List.mem_cons, List.not_mem_nil, or_false] at hgroup
    rcases hgroup with rfl | rfl | rfl
    · exact hkey.canonical h hvalue hfield hname
    · exact hreference.canonical h hvalue hfield hname
    · exact htarget.canonical h hvalue hfield hname

theorem admits_written_iff {sha256 : Sha256} {record : EvidenceRecord}
    (hwritten : Written sha256 fields key policy record) :
    Admits sha256 fields key policy record ↔
      ShowsWholeKey policy (fields.map FieldSchema.name) key := by
  refine ⟨fun hadmits => hadmits.shows, fun hshows => ?_⟩
  have hkey := hwritten.keyValues
  rw [← hshows.1] at hkey
  exact
    { shows := hshows, omitted := hwritten.omitted, keyValues := hkey
      referenceValues := hwritten.referenceValues, targetValues := hwritten.targetValues
      keyDigest := hwritten.keyDigest }

/-- The boundary that a stored request gives over the compared fields admits the
record the engine writes of a difference exactly when the policy shows the
whole key, in the order of the schema, or none of it; and it refuses every list
with a record of that kind that is shown otherwise. -/
theorem evidence_boundary_agreement (sha256 : Sha256) (fields : List FieldSchema)
    (key : List String) (policy : EvidenceDefinition) (request : List (String × Json))
    (boundary : ComparisonEvidenceBoundary) (hwell : policy.WellNamed)
    (hrequest : request.lookup "evidence_policy" = some (evidencePolicySemantics policy))
    (hboundary : evidenceBoundary request fields key = .ok boundary) (sequence : ℕ)
    (difference : ExactDifference) (hdifference : DecodedDifference fields key difference) :
    ∃ record, evidenceRecord sha256 fields key policy sequence difference = .ok record ∧
      (validateAnomalyEvidenceBoundary sha256 [record] boundary = .ok () ↔
        ShowsWholeKey policy (fields.map FieldSchema.name) key) ∧
      ∀ anomalies, ∀ other ∈ anomalies, other.kind = record.kind →
        ShownOtherwise fields record other →
          validateAnomalyEvidenceBoundary sha256 anomalies boundary ≠ .ok () := by
  have h := boundaryOf_evidenceBoundary hwell hrequest hboundary
  obtain ⟨record, hrecord, -, hwritten⟩ := exists_evidenceRecord h sha256 hdifference sequence
  refine ⟨record, hrecord, ?_, ?_⟩
  · rw [validateAnomalyEvidenceBoundary_eq_ok h, List.forall_mem_singleton]
    exact admits_written_iff hwritten
  · intro anomalies other hmem hkind hotherwise haccepted
    rw [validateAnomalyEvidenceBoundary_eq_ok h] at haccepted
    exact not_shownOtherwise h hwritten (haccepted other hmem) hkind hotherwise

/-! ## A row that is missing -/

def integerField (name : String) : FieldSchema where
  name
  logicalType := .int64
  nullable := false
  parameters := .none
  normalization := .none
  fits := FieldParameters.fit_int64

def accountFields : List FieldSchema := [integerField "region", integerField "account"]

/-- A policy that stores everything but what its rules say. -/
def storingPolicy (rules : List EvidenceFieldPolicy) : EvidenceDefinition where
  sqlCapture := .disabled
  ddlCapture := .disabled
  fields := rules
  unspecifiedFields := .store

def storingRequest (rules : List EvidenceFieldPolicy) : List (String × Json) :=
  [("evidence_policy", evidencePolicySemantics (storingPolicy rules))]

def accountRow : ExactRow where
  segmentId := "0"
  keyValue := 2
  keyEnvelope := []
  rowEnvelope := []
  values := [some (.integer 1), some (.integer 2)]
  key_int64 := by decide

def missingAccount : ExactDifference where
  segmentSequence := 0
  kind := .missing
  keyRow := accountRow
  referenceRow := some accountRow
  targetRow := none

theorem decodedUnder_integer {name : String} {n : Int} (h : IsInt64 n) :
    DecodedUnder (integerField name) (some (.integer n)) := by
  rintro decoded hdecoded
  obtain rfl := Option.some.inj hdecoded
  exact ⟨_, decodeInt64_eq_ok.mpr ⟨n, ⟨h, rfl⟩, rfl⟩⟩

theorem decodedDifference_missingAccount (key : List String) :
    DecodedDifference accountFields key missingAccount := by
  have hrow : List.Forall₂ DecodedUnder accountFields accountRow.values :=
    .cons (decodedUnder_integer (by decide)) (.cons (decodedUnder_integer (by decide)) .nil)
  exact
    { keyRow := hrow
      key_present := by
        intro field value hzip _
        simp only [accountFields, missingAccount, accountRow, List.zip_cons_cons, List.zip_nil_left,
          List.mem_cons, Prod.mk.injEq, List.not_mem_nil, or_false] at hzip
        rcases hzip with ⟨-, rfl⟩ | ⟨-, rfl⟩ <;> simp
      referenceRow := by
        rintro row hmem
        obtain rfl := Option.some.inj hmem
        exact hrow
      targetRow := by
        rintro row hmem
        cases hmem
      reference_none := by simp [missingAccount]
      target_none := by simp [missingAccount] }

theorem exists_boundary {request : List (String × Json)} {fields : List FieldSchema}
    {key : List String} (h : (evidenceBoundary request fields key).isOk = true) :
    ∃ boundary, evidenceBoundary request fields key = .ok boundary := by
  cases hboundary : evidenceBoundary request fields key with
  | error refusal => rw [hboundary] at h; cases h
  | ok boundary => exact ⟨boundary, rfl⟩

/-- A key of one column is shown whole. -/
theorem account_record_admitted :
    ∃ boundary record, evidenceBoundary (storingRequest []) accountFields ["account"] = .ok boundary ∧
      evidenceRecord zeroDigest accountFields ["account"] (storingPolicy []) 0 missingAccount
        = .ok record ∧
      validateAnomalyEvidenceBoundary zeroDigest [record] boundary = .ok () := by
  obtain ⟨boundary, hboundary⟩ :=
    exists_boundary (show (evidenceBoundary (storingRequest []) accountFields ["account"]).isOk = true
      by decide +kernel)
  obtain ⟨record, hrecord, hadmitted, -⟩ := evidence_boundary_agreement zeroDigest accountFields
    ["account"] (storingPolicy []) (storingRequest []) boundary
    { nodup := by simp [storingPolicy], nonblank := by simp [storingPolicy] } rfl hboundary 0
    missingAccount (decodedDifference_missingAccount _)
  exact ⟨boundary, record, hboundary, hrecord, hadmitted.mpr (by decide)⟩

def regionOmitted : List EvidenceFieldPolicy := [{ fieldName := "region", action := .omit }]

/-- A key of two columns, of which the policy omits one, is refused. -/
theorem partial_key_record_refused :
    ∃ boundary record,
      evidenceBoundary (storingRequest regionOmitted) accountFields ["region", "account"]
        = .ok boundary ∧
      DecodedDifference accountFields ["region", "account"] missingAccount ∧
      evidenceRecord zeroDigest accountFields ["region", "account"] (storingPolicy regionOmitted) 0
        missingAccount = .ok record ∧
      validateAnomalyEvidenceBoundary zeroDigest [record] boundary ≠ .ok () := by
  have hwell : (storingPolicy regionOmitted).WellNamed :=
    { nodup := by decide, nonblank := by decide }
  obtain ⟨boundary, hboundary⟩ :=
    exists_boundary (show (evidenceBoundary (storingRequest regionOmitted) accountFields
      ["region", "account"]).isOk = true by decide +kernel)
  have h := boundaryOf_evidenceBoundary hwell rfl hboundary
  obtain ⟨record, hrecord, -, hwritten⟩ :=
    exists_evidenceRecord h zeroDigest (decodedDifference_missingAccount _) 0
  refine ⟨boundary, record, hboundary, decodedDifference_missingAccount _, hrecord, ?_⟩
  intro haccepted
  rw [validateAnomalyEvidenceBoundary_eq_ok h, List.forall_mem_singleton] at haccepted
  exact absurd haccepted.shows (by decide)

end ForensicData.Persistence
