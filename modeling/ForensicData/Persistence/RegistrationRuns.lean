/-
ForensicData.Persistence.RegistrationRuns — any number of callers, attempt
after attempt.

Every reached store is the rows of a sound registry whose records were drawn by
the calls (`reached_run`). From it `registration_law`: an identity is bound
once and for all, a call that ends well returns what is bound, a call that
conflicts is told so and leaves no trace, and the artifacts of a call are
stored together and once.
-/
import Mathlib.Data.List.Zip
import ForensicData.Canonical.RowTheorems
import ForensicData.Persistence.RegistrationTheorems

namespace ForensicData.Persistence

open ForensicData.Canonical
open ForensicData.Contracts
open ForensicData.Lib
open ForensicData.Reporting
open ForensicData.Result

variable {sha256 : Sha256} {rules : RegistrationRules sha256}
variable {ι : Type} {calls : ι → RegistrationCall rules}

/-! ## Candidate ids -/

/-- Every call has drawn ids of its own. -/
structure DistinctCandidates (calls : ι → RegistrationCall rules) : Prop where
  reference_inj : ∀ i j, (calls i).referenceId = (calls j).referenceId → i = j
  target_inj : ∀ i j, (calls i).targetId = (calls j).targetId → i = j
  apart : ∀ i j, (calls i).referenceId ≠ (calls j).targetId
  contract_inj : ∀ i j, (calls i).contractId = (calls j).contractId → i = j
  artifacts_nodup : ∀ i, (calls i).artifactIds.Nodup
  artifacts_apart : ∀ i j artifactId, artifactId ∈ (calls i).artifactIds →
    artifactId ∈ (calls j).artifactIds → i = j

/-- The records of a registry are those of the calls. -/
structure DrawnBy (calls : ι → RegistrationCall rules) (registry : Registry) : Prop where
  datasets : ∀ record ∈ registry.datasets, ∃ i,
    record.datasetVersionId = (calls i).referenceId ∧
      record.definition = (calls i).definition.referenceDataset ∨
    record.datasetVersionId = (calls i).targetId ∧
      record.definition = (calls i).definition.targetDataset
  contracts : ∀ record ∈ registry.contracts, ∃ i,
    record.contractVersionId = (calls i).contractId ∧
      record.definition = (calls i).definition.contract
  codeArtifacts : ∀ record ∈ registry.codeArtifacts, ∃ i,
    (record.codeArtifactId, record.definition) ∈ (calls i).artifacts

variable {registry after : Registry} {i : ι}

theorem RegistrationCall.mem_artifactIds {call : RegistrationCall rules}
    {artifact : Uuid × CodeArtifactCaptureDefinition} (h : artifact ∈ call.artifacts) :
    artifact.1 ∈ call.artifactIds := by
  rw [← call.map_fst_artifacts]
  exact List.mem_map_of_mem h

/-- In a registry the calls have drawn, the ids of a call are its own. -/
theorem DrawnBy.ownIds (hdrawn : DrawnBy calls registry) (hids : DistinctCandidates calls)
    (i : ι) : OwnIds registry (calls i) := by
  constructor
  · exact hids.apart i i
  · exact hids.artifacts_nodup i
  · intro record hrecord hid
    obtain ⟨j, ⟨hdrawnId, hdefinition⟩ | ⟨hdrawnId, -⟩⟩ := hdrawn.datasets record hrecord
    · obtain rfl := hids.reference_inj j i (hdrawnId.symm.trans hid)
      exact hdefinition
    · exact absurd (hid.symm.trans hdrawnId) (hids.apart i j)
  · intro record hrecord hid
    obtain ⟨j, ⟨hdrawnId, -⟩ | ⟨hdrawnId, hdefinition⟩⟩ := hdrawn.datasets record hrecord
    · exact absurd (hdrawnId.symm.trans hid) (hids.apart j i)
    · obtain rfl := hids.target_inj j i (hdrawnId.symm.trans hid)
      exact hdefinition
  · intro record hrecord hid
    obtain ⟨j, hdrawnId, hdefinition⟩ := hdrawn.contracts record hrecord
    obtain rfl := hids.contract_inj j i (hdrawnId.symm.trans hid)
    exact hdefinition
  · intro record hrecord artifact hartifact hid
    obtain ⟨j, hdrawnArtifact⟩ := hdrawn.codeArtifacts record hrecord
    have hfirst := RegistrationCall.mem_artifactIds hdrawnArtifact
    rw [show record.codeArtifactId = artifact.1 from hid] at hfirst
    obtain rfl := hids.artifacts_apart j i artifact.1 hfirst
      (RegistrationCall.mem_artifactIds hartifact)
    have hnodup : ((calls j).artifacts.map Prod.fst).Nodup := by
      rw [(calls j).map_fst_artifacts]
      exact hids.artifacts_nodup j
    have hsame := List.inj_on_of_nodup_map hnodup hdrawnArtifact hartifact hid
    exact congrArg Prod.snd hsame

/-! ## The artifacts of a call -/

/-- The artifacts stored under the ids of a call. -/
def artifactsOf (registry : Registry) (call : RegistrationCall rules) : List CodeArtifactRecord :=
  registry.codeArtifacts.filter fun record => decide (record.codeArtifactId ∈ call.artifactIds)

/-- The artifacts of a call are not stored, or all of them once. -/
def ArtifactsOnce (registry : Registry) (call : RegistrationCall rules) : Prop :=
  artifactsOf registry call = [] ∨ ∃ now : StoreTime, artifactsOf registry call
    = call.artifacts.map fun artifact => ⟨artifact.1, artifact.2, now⟩

theorem mem_newArtifacts {now : StoreTime} {artifacts : List (Uuid × CodeArtifactCaptureDefinition)}
    {record : CodeArtifactRecord} (h : record ∈ newArtifacts registry now artifacts) :
    (record.codeArtifactId, record.definition) ∈ artifacts := by
  obtain ⟨artifact, hartifact, rfl⟩ := List.mem_map.mp h
  exact List.mem_of_mem_filter hartifact

/-- The artifacts of a call are new together. -/
theorem newArtifacts_eq_self {now : StoreTime} {call : RegistrationCall rules}
    (hempty : artifactsOf registry call = []) :
    newArtifacts registry now call.artifacts
      = call.artifacts.map fun artifact => ⟨artifact.1, artifact.2, now⟩ := by
  have hall : ∀ artifact ∈ call.artifacts,
      (rowAt CodeArtifactRecord.codeArtifactId registry.codeArtifacts artifact.1).isNone := by
    intro artifact hartifact
    rw [Option.isNone_iff_eq_none, rowAt_eq_none]
    intro record hrecord hid
    have hmem : record ∈ artifactsOf registry call := by
      refine List.mem_filter.mpr ⟨hrecord, ?_⟩
      rw [hid, decide_eq_true_iff]
      exact RegistrationCall.mem_artifactIds hartifact
    rw [hempty] at hmem
    cases hmem
  rw [newArtifacts, List.filter_eq_self.mpr hall]

/-- Or none of them is. -/
theorem newArtifacts_eq_nil {now stored : StoreTime} {call : RegistrationCall rules}
    (hall : artifactsOf registry call
      = call.artifacts.map fun artifact => ⟨artifact.1, artifact.2, stored⟩) :
    newArtifacts registry now call.artifacts = [] := by
  rw [newArtifacts, List.map_eq_nil_iff, List.filter_eq_nil_iff]
  intro artifact hartifact hnone
  rw [Option.isNone_iff_eq_none, rowAt_eq_none] at hnone
  have hmem : (⟨artifact.1, artifact.2, stored⟩ : CodeArtifactRecord) ∈ artifactsOf registry call := by
    rw [hall]
    exact List.mem_map.mpr ⟨artifact, hartifact, rfl⟩
  exact hnone _ (List.mem_of_mem_filter hmem) rfl

/-- A registration of one call stores its artifacts once, and none of another call. -/
theorem ArtifactsOnce.register (hids : DistinctCandidates calls) {now : StoreTime}
    (hafter : after.codeArtifacts
      = registry.codeArtifacts ++ newArtifacts registry now (calls i).artifacts) {j : ι}
    (h : ArtifactsOnce registry (calls j)) : ArtifactsOnce after (calls j) := by
  have hsplit : artifactsOf after (calls j) = artifactsOf registry (calls j) ++
      (newArtifacts registry now (calls i).artifacts).filter fun record =>
        decide (record.codeArtifactId ∈ (calls j).artifactIds) := by
    rw [artifactsOf, hafter, List.filter_append]
    rfl
  by_cases hsame : i = j
  · subst hsame
    have hown : (newArtifacts registry now (calls i).artifacts).filter (fun record =>
        decide (record.codeArtifactId ∈ (calls i).artifactIds))
        = newArtifacts registry now (calls i).artifacts := by
      rw [List.filter_eq_self]
      intro record hrecord
      exact decide_eq_true (RegistrationCall.mem_artifactIds (mem_newArtifacts hrecord))
    rw [hown] at hsplit
    right
    rcases h with hempty | ⟨stored, hall⟩
    · refine ⟨now, ?_⟩
      rw [hsplit, hempty, List.nil_append, newArtifacts_eq_self hempty]
    · refine ⟨stored, ?_⟩
      rw [hsplit, newArtifacts_eq_nil hall, List.append_nil, hall]
  · have hother : (newArtifacts registry now (calls i).artifacts).filter (fun record =>
        decide (record.codeArtifactId ∈ (calls j).artifactIds)) = [] := by
      rw [List.filter_eq_nil_iff]
      intro record hrecord hmem
      exact hsame (hids.artifacts_apart i j _
        (RegistrationCall.mem_artifactIds (mem_newArtifacts hrecord)) (of_decide_eq_true hmem))
    rw [hother, List.append_nil] at hsplit
    rw [ArtifactsOnce, hsplit]
    exact h

/-! ## What a call that ended well holds -/

/-- What a call returned is stored, and is what it asked for. -/
structure Holds (registry : Registry) (call : RegistrationCall rules)
    (registration : MetadataRegistration) : Prop where
  reference_mem : registration.referenceDataset ∈ registry.datasets
  target_mem : registration.targetDataset ∈ registry.datasets
  contract_mem : registration.contract ∈ registry.contracts
  artifacts_mem : ∀ record ∈ registration.codeArtifacts, record ∈ registry.codeArtifacts
  definition_eq : registration.definition = call.definition
  versions_eq : registration.contract.referenceDatasetVersionId
      = registration.referenceDataset.datasetVersionId ∧
    registration.contract.targetDatasetVersionId = registration.targetDataset.datasetVersionId
  artifacts_eq : registration.codeArtifacts.map CodeArtifactRecord.codeArtifactId
    = call.artifactIds

variable {registration : MetadataRegistration}

theorem Registered.holds {call : RegistrationCall rules} {now : StoreTime}
    (h : Registered registry call now registration after) : Holds after call registration := by
  have hdefinitions : registration.codeArtifacts.map CodeArtifactRecord.definition
      = call.definition.codeArtifacts := by
    rw [← call.map_snd_artifacts, ← h.artifacts_eq, List.map_map]
    rfl
  constructor
  · exact h.reference_mem
  · exact h.target_mem
  · exact h.contract_mem
  · exact h.artifacts_mem
  · simp only [MetadataRegistration.definition, h.reference_eq, h.target_eq, h.contract_eq,
      hdefinitions]
  · exact h.versions_eq
  · rw [← call.map_fst_artifacts, ← h.artifacts_eq, List.map_map]
    rfl

theorem Holds.mono {call : RegistrationCall rules} (h : Holds registry call registration)
    (hgrows : Extends registry after) : Holds after call registration where
  reference_mem := hgrows.datasets.subset h.reference_mem
  target_mem := hgrows.datasets.subset h.target_mem
  contract_mem := hgrows.contracts.subset h.contract_mem
  artifacts_mem := fun record hrecord => hgrows.codeArtifacts.subset (h.artifacts_mem record hrecord)
  definition_eq := h.definition_eq
  versions_eq := h.versions_eq
  artifacts_eq := h.artifacts_eq

/-- What is bound to a definition is not in conflict with it. -/
theorem not_datasetConflict (h : Sound rules registry) {record : DatasetVersionRecord}
    {definition : DatasetVersionDefinition} (hmem : record ∈ registry.datasets)
    (hdefinition : record.definition = definition) : ¬ registry.DatasetConflict definition := by
  rintro ⟨found, hfound, hidentity, hdiffers⟩
  have hsame : found.identity = record.identity := by
    rw [hidentity, DatasetVersionRecord.identity, hdefinition]
  rw [List.inj_on_of_nodup_map h.datasets.keys hfound hmem hsame] at hdiffers
  exact hdiffers hdefinition

theorem not_contractConflict (h : Sound rules registry) {record : ContractVersionRecord}
    {definition : ContractVersionDefinition} (hmem : record ∈ registry.contracts)
    (hdefinition : record.definition = definition) : ¬ registry.ContractConflict definition := by
  rintro ⟨found, hfound, hidentity, hdiffers⟩
  have hsame : found.identity = record.identity := by
    rw [hidentity, ContractVersionRecord.identity, hdefinition]
  rw [List.inj_on_of_nodup_map h.contracts.keys hfound hmem hsame] at hdiffers
  exact hdiffers hdefinition

theorem Holds.not_conflicts {call : RegistrationCall rules} (h : Holds registry call registration)
    (hsound : Sound rules registry) : ¬ registry.Conflicts call.definition := by
  have hreference : registration.referenceDataset.definition = call.definition.referenceDataset :=
    congrArg MetadataRegistrationDefinition.referenceDataset h.definition_eq
  have htarget : registration.targetDataset.definition = call.definition.targetDataset :=
    congrArg MetadataRegistrationDefinition.targetDataset h.definition_eq
  have hcontract : registration.contract.definition = call.definition.contract :=
    congrArg MetadataRegistrationDefinition.contract h.definition_eq
  rintro (hconflict | hconflict | hconflict)
  · exact not_datasetConflict hsound h.reference_mem hreference hconflict
  · exact not_datasetConflict hsound h.target_mem htarget hconflict
  · exact not_contractConflict hsound h.contract_mem hcontract hconflict

/-- A conflict does not go away. -/
theorem Registry.Conflicts.mono {definition : MetadataRegistrationDefinition}
    (h : registry.Conflicts definition) (hgrows : Extends registry after) :
    after.Conflicts definition := by
  rcases h with ⟨found, hfound, hdiffers⟩ | ⟨found, hfound, hdiffers⟩ | ⟨found, hfound, hdiffers⟩
  · exact .inl ⟨found, hgrows.datasets.subset hfound, hdiffers⟩
  · exact .inr (.inl ⟨found, hgrows.datasets.subset hfound, hdiffers⟩)
  · exact .inr (.inr ⟨found, hgrows.contracts.subset hfound, hdiffers⟩)

/-! ## One attempt -/

/-- A failure that reports no conflict. -/
def Unrelated (raised : Raised) : Prop :=
  ∀ refusal, raised = .refusal refusal → ¬ IsConflict refusal

theorem Interference.unrelated (raised : Interference) : Unrelated raised.raised := by
  intro refusal heq
  cases raised with
  | driver error => cases heq
  | check refusal other =>
    cases heq
    exact other

theorem Unrelated.persistenceError {call : RegistrationCall rules} {raised : Raised}
    (h : Unrelated raised) : Unrelated (persistenceError call raised) := by
  intro refusal heq
  cases raised with
  | driver error =>
    cases error with
    | operationalError errorType sqlstate => cases heq
    | otherError errorType sqlstate =>
      cases heq
      rintro (hconflict | hconflict) <;> cases hconflict
  | refusal other => exact h refusal heq

/-- Such a failure is tried again, or ends the call with an error that is no conflict. -/
theorem Unrelated.settle {maxAttempts attempt : ℕ} {raised : Raised} (h : Unrelated raised) :
    (∃ next, settle maxAttempts attempt (.error raised) = .attempting next) ∨
      ∃ refusal, settle maxAttempts attempt (.error raised) = .ended (.error refusal) ∧
        ¬ IsConflict refusal := by
  cases raised with
  | driver error =>
    cases error with
    | operationalError errorType sqlstate =>
      by_cases hmore : attempt < maxAttempts
      · exact .inl ⟨attempt + 1, if_pos hmore⟩
      · refine .inr ⟨_, if_neg hmore, ?_⟩
        rintro (hconflict | hconflict) <;> cases hconflict
    | otherError errorType sqlstate =>
      refine .inr ⟨_, rfl, ?_⟩
      rintro (hconflict | hconflict) <;> cases hconflict
  | refusal other => exact .inr ⟨other, rfl, h other rfl⟩

/-- What an attempt comes to. -/
inductive Attempted (registry : Registry) (call : RegistrationCall rules) :
    AttemptEvent → Except Raised MetadataRegistration → Registry → Prop
  | failed {event : AttemptEvent} {raised : Raised} (hraised : Unrelated raised)
    (hevent : ∀ now lost, event ≠ .commits now lost) :
    Attempted registry call event (.error raised) registry
  | conflict {now : StoreTime} {lost : Option Interference} {refusal : Refusal}
    (hconflict : registry.Conflicts call.definition) (hrefusal : IsConflict refusal) :
    Attempted registry call (.commits now lost) (.error (.refusal refusal)) registry
  | committed {now : StoreTime} {registration : MetadataRegistration} {after : Registry}
    (hfree : ¬ registry.Conflicts call.definition)
    (hregistered : Registered registry call now registration after) :
    Attempted registry call (.commits now none) (.ok registration) after
  | lost {now : StoreTime} {interference : Interference} {registration : MetadataRegistration}
    {after : Registry} {raised : Raised} (hraised : Unrelated raised)
    (hfree : ¬ registry.Conflicts call.definition)
    (hregistered : Registered registry call now registration after) :
    Attempted registry call (.commits now (some interference)) (.error raised) after

theorem attemptOnce_cases (h : Sound rules registry) {call : RegistrationCall rules}
    (hown : OwnIds registry call) (event : AttemptEvent) :
    ∃ outcome after, attemptOnce call registry.rows event = (outcome, after.rows) ∧
      Attempted registry call event outcome after := by
  cases event with
  | notConnected raised =>
    refine ⟨_, registry, rfl, .failed raised.unrelated ?_⟩
    intro now lost heq
    cases heq
  | rolledBack raised =>
    refine ⟨_, registry, rfl, .failed raised.unrelated.persistenceError ?_⟩
    intro now lost heq
    cases heq
  | commits now lost =>
    have hrows := registerOnce_rows h call now
    rcases register_cases h hown now with ⟨hconflict, refusal, hregister, hrefusal⟩ |
      ⟨hfree, registration, after, hregister, hregistered⟩
    · rw [hregister] at hrows
      refine ⟨.error (.refusal refusal), registry, ?_, .conflict hconflict hrefusal⟩
      rw [attemptOnce, hrows]
      rfl
    · rw [hregister] at hrows
      cases lost with
      | none =>
        refine ⟨.ok registration, after, ?_, .committed hfree hregistered⟩
        rw [attemptOnce, hrows]
        rfl
      | some interference =>
        refine ⟨.error (persistenceError call interference.raised), after, ?_,
          .lost interference.unrelated.persistenceError hfree hregistered⟩
        rw [attemptOnce, hrows]
        rfl

/-- An attempt leaves what was there. -/
theorem Attempted.extends {call : RegistrationCall rules} {event : AttemptEvent}
    {outcome : Except Raised MetadataRegistration}
    (h : Attempted registry call event outcome after) : Extends registry after := by
  cases h with
  | failed hraised hevent => exact .refl _
  | conflict hconflict hrefusal => exact .refl _
  | committed hfree hregistered => exact hregistered.grows
  | lost hraised hfree hregistered => exact hregistered.grows

/-- An attempt changes nothing, or registers its call. -/
theorem Attempted.eq_or_registered {call : RegistrationCall rules} {event : AttemptEvent}
    {outcome : Except Raised MetadataRegistration}
    (h : Attempted registry call event outcome after) :
    after = registry ∨ ∃ now registration, Registered registry call now registration after := by
  cases h with
  | failed hraised hevent => exact .inl rfl
  | conflict hconflict hrefusal => exact .inl rfl
  | committed hfree hregistered => exact .inr ⟨_, _, hregistered⟩
  | lost hraised hfree hregistered => exact .inr ⟨_, _, hregistered⟩

/-- A call that has ended well after an attempt holds what it returns. -/
theorem Attempted.ended_ok {call : RegistrationCall rules} {event : AttemptEvent}
    {outcome : Except Raised MetadataRegistration} {maxAttempts attempt : ℕ}
    (h : Attempted registry call event outcome after)
    (hended : settle maxAttempts attempt outcome = .ended (.ok registration)) :
    Holds after call registration := by
  cases h with
  | failed hraised hevent =>
    rcases hraised.settle with ⟨next, heq⟩ | ⟨refusal, heq, -⟩ <;> rw [heq] at hended <;> cases hended
  | conflict hconflict hrefusal => cases hended
  | committed hfree hregistered =>
    cases hended
    exact hregistered.holds
  | lost hraised hfree hregistered =>
    rcases hraised.settle with ⟨next, heq⟩ | ⟨refusal, heq, -⟩ <;> rw [heq] at hended <;> cases hended

/-- A call that has ended in a conflict after an attempt is in conflict. -/
theorem Attempted.ended_conflict {call : RegistrationCall rules} {event : AttemptEvent}
    {outcome : Except Raised MetadataRegistration} {maxAttempts attempt : ℕ} {refusal : Refusal}
    (h : Attempted registry call event outcome after)
    (hended : settle maxAttempts attempt outcome = .ended (.error refusal))
    (hrefusal : IsConflict refusal) : after.Conflicts call.definition := by
  cases h with
  | failed hraised hevent =>
    rcases hraised.settle with ⟨next, heq⟩ | ⟨other, heq, hother⟩ <;> rw [heq] at hended <;>
      cases hended
    exact absurd hrefusal hother
  | conflict hconflict hother => exact hconflict
  | committed hfree hregistered => cases hended
  | lost hraised hfree hregistered =>
    rcases hraised.settle with ⟨next, heq⟩ | ⟨other, heq, hother⟩ <;> rw [heq] at hended <;>
      cases hended
    exact absurd hrefusal hother

/-! ## What a store holds -/

/-- A dataset version that is read from the store. -/
def HoldsDataset (rules : RegistrationRules sha256) (store : MetadataStore)
    (record : DatasetVersionRecord) : Prop :=
  ∃ row ∈ store.datasets, datasetRecord rules row = .ok record

/-- A check revision that is read from the store, with its dataset versions. -/
def HoldsContract (rules : RegistrationRules sha256) (store : MetadataStore)
    (record : ContractVersionRecord) : Prop :=
  ∃ row ∈ store.contracts, ∃ joined, store.join row = some joined ∧
    contractRecord rules joined = .ok record

/-- A definition that is stored under an identity of the registration is another one. -/
def Conflicting (rules : RegistrationRules sha256) (store : MetadataStore)
    (definition : MetadataRegistrationDefinition) : Prop :=
  (∃ record, HoldsDataset rules store record ∧
      record.identity = definition.referenceDataset.identity ∧
      record.definition ≠ definition.referenceDataset) ∨
    (∃ record, HoldsDataset rules store record ∧
      record.identity = definition.targetDataset.identity ∧
      record.definition ≠ definition.targetDataset) ∨
    ∃ record, HoldsContract rules store record ∧
      record.identity = definition.contract.identity ∧ record.definition ≠ definition.contract

theorem holdsDataset_rows (h : Sound rules registry) {record : DatasetVersionRecord} :
    HoldsDataset rules registry.rows record ↔ record ∈ registry.datasets := by
  constructor
  · rintro ⟨row, hrow, hread⟩
    obtain ⟨stored, hstored, rfl⟩ := List.mem_map.mp hrow
    rw [datasetRecord_row (h.dataset_admitted stored hstored), Except.ok.injEq] at hread
    rw [← hread]
    exact hstored
  · intro hrecord
    exact ⟨datasetVersionRow record, List.mem_map_of_mem hrecord,
      datasetRecord_row (h.dataset_admitted record hrecord)⟩

theorem holdsContract_rows (h : Sound rules registry) {record : ContractVersionRecord} :
    HoldsContract rules registry.rows record ↔ record ∈ registry.contracts := by
  constructor
  · rintro ⟨row, hrow, joined, hjoined, hread⟩
    obtain ⟨stored, hstored, rfl⟩ := List.mem_map.mp hrow
    obtain ⟨expected, hjoin, hexpected⟩ := contractRecord_row h rfl
      (h.contract_admitted stored hstored) (h.standsOn stored hstored)
    rw [hjoin, Option.some.injEq] at hjoined
    rw [← hjoined, hexpected, Except.ok.injEq] at hread
    rw [← hread]
    exact hstored
  · intro hrecord
    exact ⟨contractVersionRow record, List.mem_map_of_mem hrecord, contractRecord_row h rfl
      (h.contract_admitted record hrecord) (h.standsOn record hrecord)⟩

theorem conflicting_rows (h : Sound rules registry)
    {definition : MetadataRegistrationDefinition} :
    Conflicting rules registry.rows definition ↔ registry.Conflicts definition := by
  simp only [Conflicting, holdsDataset_rows h, holdsContract_rows h, Registry.Conflicts,
    Registry.DatasetConflict, Registry.ContractConflict]

/-- What a call that ended well has returned. -/
structure Returned (rules : RegistrationRules sha256) (store : MetadataStore)
    (call : RegistrationCall rules) (registration : MetadataRegistration) : Prop where
  reference : HoldsDataset rules store registration.referenceDataset
  target : HoldsDataset rules store registration.targetDataset
  contract : HoldsContract rules store registration.contract
  codeArtifacts : ∀ record ∈ registration.codeArtifacts, codeArtifactRow record ∈ store.codeArtifacts
  definition_eq : registration.definition = call.definition
  artifactIds_eq : registration.codeArtifacts.map CodeArtifactRecord.codeArtifactId
    = call.artifactIds

/-- A registration has the records that are bound to the definitions of its call. -/
structure SharesBound (rules : RegistrationRules sha256) (store : MetadataStore)
    (call : RegistrationCall rules) (registration : MetadataRegistration) : Prop where
  reference : ∀ record, HoldsDataset rules store record →
    record.definition = call.definition.referenceDataset → registration.referenceDataset = record
  target : ∀ record, HoldsDataset rules store record →
    record.definition = call.definition.targetDataset → registration.targetDataset = record
  contract : ∀ record, HoldsContract rules store record →
    record.definition = call.definition.contract → registration.contract = record

theorem Holds.returned {call : RegistrationCall rules} (h : Holds registry call registration)
    (hsound : Sound rules registry) : Returned rules registry.rows call registration where
  reference := (holdsDataset_rows hsound).mpr h.reference_mem
  target := (holdsDataset_rows hsound).mpr h.target_mem
  contract := (holdsContract_rows hsound).mpr h.contract_mem
  codeArtifacts := fun record hrecord => List.mem_map_of_mem (h.artifacts_mem record hrecord)
  definition_eq := h.definition_eq
  artifactIds_eq := h.artifacts_eq

/-- What a call returns later is what was bound before. -/
theorem Holds.sharesBound {call : RegistrationCall rules} {later : Registry}
    (h : Holds later call registration) (hsound : Sound rules registry)
    (hlater : Sound rules later) (hgrows : Extends registry later) :
    SharesBound rules registry.rows call registration := by
  constructor
  · intro record hrecord hdefinition
    have hmem := hgrows.datasets.subset ((holdsDataset_rows hsound).mp hrecord)
    have hsame : registration.referenceDataset.definition = record.definition :=
      (congrArg MetadataRegistrationDefinition.referenceDataset h.definition_eq).trans
        hdefinition.symm
    exact List.inj_on_of_nodup_map hlater.datasets.keys h.reference_mem hmem
      (congrArg DatasetVersionDefinition.identity hsame)
  · intro record hrecord hdefinition
    have hmem := hgrows.datasets.subset ((holdsDataset_rows hsound).mp hrecord)
    have hsame : registration.targetDataset.definition = record.definition :=
      (congrArg MetadataRegistrationDefinition.targetDataset h.definition_eq).trans
        hdefinition.symm
    exact List.inj_on_of_nodup_map hlater.datasets.keys h.target_mem hmem
      (congrArg DatasetVersionDefinition.identity hsame)
  · intro record hrecord hdefinition
    have hmem := hgrows.contracts.subset ((holdsContract_rows hsound).mp hrecord)
    have hsame : registration.contract.definition = record.definition :=
      (congrArg MetadataRegistrationDefinition.contract h.definition_eq).trans hdefinition.symm
    exact List.inj_on_of_nodup_map hlater.contracts.keys h.contract_mem hmem
      (congrArg ContractVersionDefinition.identity hsame)

theorem ArtifactsOnce.rows {call : RegistrationCall rules} (h : ArtifactsOnce registry call) :
    let stored := registry.rows.codeArtifacts.filter fun row =>
      decide (row.codeArtifactId ∈ call.artifactIds)
    stored = [] ∨ ∃ now : StoreTime, stored = call.artifacts.map fun artifact =>
      codeArtifactRow ⟨artifact.1, artifact.2, now⟩ := by
  have hstored : registry.rows.codeArtifacts.filter (fun row =>
      decide (row.codeArtifactId ∈ call.artifactIds))
      = (artifactsOf registry call).map codeArtifactRow := List.filter_map
  intro stored
  rcases h with hempty | ⟨now, hall⟩
  · left
    show registry.rows.codeArtifacts.filter _ = []
    rw [hstored, hempty, List.map_nil]
  · refine .inr ⟨now, ?_⟩
    show registry.rows.codeArtifacts.filter _ = _
    rw [hstored, hall, List.map_map]
    rfl

/-! ## Reached stores -/

/-- What a reached world keeps to. -/
structure Reached (calls : ι → RegistrationCall rules) (registry : Registry)
    (world : RegistrationWorld ι) : Prop where
  store_eq : world.store = registry.rows
  sound : Sound rules registry
  drawn : DrawnBy calls registry
  artifacts : ∀ i, ArtifactsOnce registry (calls i)
  ended_ok : ∀ i registration, world.progress i = .ended (.ok registration) →
    Holds registry (calls i) registration
  ended_conflict : ∀ i refusal, world.progress i = .ended (.error refusal) → IsConflict refusal →
    registry.Conflicts (calls i).definition

theorem reached_initial : Reached calls Registry.empty .initial where
  store_eq := rfl
  sound := sound_empty
  drawn := ⟨by simp [Registry.empty], by simp [Registry.empty], by simp [Registry.empty]⟩
  artifacts := fun _ => .inl rfl
  ended_ok := by simp [RegistrationWorld.initial]
  ended_conflict := by simp [RegistrationWorld.initial]

theorem DrawnBy.registered {now : StoreTime} (hdrawn : DrawnBy calls registry)
    (h : Registered registry (calls i) now registration after) : DrawnBy calls after := by
  constructor
  · intro record hrecord
    rcases h.dataset_source record hrecord with hold | hnew
    · exact hdrawn.datasets record hold
    · exact ⟨i, hnew⟩
  · intro record hrecord
    rcases h.contract_source record hrecord with hold | hnew
    · exact hdrawn.contracts record hold
    · exact ⟨i, hnew⟩
  · intro record hrecord
    rw [h.artifact_source] at hrecord
    rcases List.mem_append.mp hrecord with hold | hnew
    · exact hdrawn.codeArtifacts record hold
    · exact ⟨i, mem_newArtifacts hnew⟩

variable [DecidableEq ι] {world : RegistrationWorld ι}

/-- An attempt keeps a reached world reached. -/
theorem Reached.attempted (h : Reached calls registry world) (hids : DistinctCandidates calls)
    {event : AttemptEvent} {outcome : Except Raised MetadataRegistration}
    (hattempted : Attempted registry (calls i) event outcome after) (maxAttempts attempt : ℕ) :
    Reached calls after
      ⟨after.rows, Function.update world.progress i (settle maxAttempts attempt outcome)⟩ := by
  constructor
  · rfl
  · rcases hattempted.eq_or_registered with rfl | ⟨now, registration, hregistered⟩
    · exact h.sound
    · exact hregistered.sound
  · rcases hattempted.eq_or_registered with rfl | ⟨now, registration, hregistered⟩
    · exact h.drawn
    · exact h.drawn.registered hregistered
  · intro j
    rcases hattempted.eq_or_registered with rfl | ⟨now, registration, hregistered⟩
    · exact h.artifacts j
    · exact (h.artifacts j).register hids hregistered.artifact_source
  · intro j registration hended
    by_cases hsame : j = i
    · subst hsame
      simp only [Function.update_self] at hended
      exact hattempted.ended_ok hended
    · simp only [Function.update_of_ne hsame] at hended
      exact (h.ended_ok j registration hended).mono hattempted.extends
  · intro j refusal hended hrefusal
    by_cases hsame : j = i
    · subst hsame
      simp only [Function.update_self] at hended
      exact hattempted.ended_conflict hended hrefusal
    · simp only [Function.update_of_ne hsame] at hended
      exact (h.ended_conflict j refusal hended hrefusal).mono hattempted.extends

/-- What an attempt of a call does to a reached world. -/
theorem Reached.step_attempting (h : Reached calls registry world)
    (hids : DistinctCandidates calls) {attempt : ℕ}
    (hattempting : world.progress i = .attempting attempt) (event : AttemptEvent) :
    ∃ outcome after, Attempted registry (calls i) event outcome after ∧
      world.step calls (i, event)
        = ⟨after.rows, Function.update world.progress i
            (settle (calls i).maxAttempts attempt outcome)⟩ := by
  obtain ⟨outcome, after, heq, hattempted⟩ :=
    attemptOnce_cases h.sound (h.drawn.ownIds hids i) event
  refine ⟨outcome, after, hattempted, ?_⟩
  simp only [RegistrationWorld.step, hattempting, h.store_eq, heq]

theorem step_of_ended {outcome : Except Refusal MetadataRegistration}
    (hended : world.progress i = .ended outcome) (event : AttemptEvent) :
    world.step calls (i, event) = world := by
  simp only [RegistrationWorld.step, hended]

/-- **One step keeps a reached world reached**, and loses nothing. -/
theorem Reached.step (h : Reached calls registry world) (hids : DistinctCandidates calls)
    (next : ι × AttemptEvent) :
    ∃ after, Extends registry after ∧ Reached calls after (world.step calls next) := by
  obtain ⟨i, event⟩ := next
  cases hprogress : world.progress i with
  | ended outcome =>
    rw [step_of_ended hprogress]
    exact ⟨registry, .refl _, h⟩
  | attempting attempt =>
    obtain ⟨outcome, after, hattempted, hstep⟩ := h.step_attempting hids hprogress event
    rw [hstep]
    exact ⟨after, hattempted.extends, h.attempted hids hattempted _ _⟩

/-- From a reached world every run reaches worlds that hold all it held. -/
theorem Reached.foldl (h : Reached calls registry world) (hids : DistinctCandidates calls)
    (events : List (ι × AttemptEvent)) :
    ∃ after, Extends registry after ∧
      Reached calls after (events.foldl (RegistrationWorld.step calls) world) := by
  induction events generalizing registry world with
  | nil => exact ⟨registry, .refl _, h⟩
  | cons next events ih =>
    obtain ⟨between, hgrows, hbetween⟩ := h.step hids next
    obtain ⟨after, hmore, hafter⟩ := ih hbetween
    exact ⟨after, hgrows.trans hmore, hafter⟩

theorem reached_run (hids : DistinctCandidates calls) (events : List (ι × AttemptEvent)) :
    ∃ registry, Reached calls registry (RegistrationWorld.run calls events) := by
  obtain ⟨registry, -, hreached⟩ := reached_initial.foldl hids events
  exact ⟨registry, hreached⟩

/-- A longer run holds all the shorter one held. -/
theorem reached_run_append (hids : DistinctCandidates calls) (events more : List (ι × AttemptEvent)) :
    ∃ registry later, Reached calls registry (RegistrationWorld.run calls events) ∧
      Reached calls later (RegistrationWorld.run calls (events ++ more)) ∧
      Extends registry later := by
  obtain ⟨registry, hreached⟩ := reached_run hids events
  obtain ⟨later, hgrows, hlater⟩ := hreached.foldl hids more
  refine ⟨registry, later, hreached, ?_, hgrows⟩
  rw [RegistrationWorld.run, List.foldl_append]
  exact hlater

/-! ## The law of registrations -/

/-- What holds after any run of any callers. -/
structure RegistrationLaw (calls : ι → RegistrationCall rules)
    (events : List (ι × AttemptEvent)) (world : RegistrationWorld ι) : Prop where
  /-- An identity is bound once, to a definition that can be read. -/
  datasets_bound : (world.store.datasets.map DatasetVersionRow.identity).Nodup ∧
    ∀ row ∈ world.store.datasets, ∃ record, datasetRecord rules row = .ok record
  contracts_bound : (world.store.contracts.map ContractVersionRow.identity).Nodup ∧
    ∀ row ∈ world.store.contracts, ∃ record, HoldsContract rules world.store record ∧
      contractVersionRow record = row
  /-- What is bound does not change, whatever is run next. -/
  datasets_kept : ∀ more record, HoldsDataset rules world.store record →
    HoldsDataset rules (RegistrationWorld.run calls (events ++ more)).store record
  contracts_kept : ∀ more record, HoldsContract rules world.store record →
    HoldsContract rules (RegistrationWorld.run calls (events ++ more)).store record
  /-- A call that ends well has stored what it asked for. -/
  returned : ∀ i registration, world.progress i = .ended (.ok registration) →
    Returned rules world.store (calls i) registration
  /-- What was bound before is what a call returns. -/
  first : ∀ more i registration,
    (RegistrationWorld.run calls (events ++ more)).progress i = .ended (.ok registration) →
    SharesBound rules world.store (calls i) registration
  /-- Without a conflict a commit that is answered ends the call well. -/
  commits : ∀ i attempt now, world.progress i = .attempting attempt →
    ¬ Conflicting rules world.store (calls i).definition →
    ∃ registration, (world.step calls (i, .commits now none)).progress i
      = .ended (.ok registration)
  /-- In a conflict the transaction ends the call with the conflict error. -/
  conflict : ∀ i attempt now lost, world.progress i = .attempting attempt →
    Conflicting rules world.store (calls i).definition →
    ∃ refusal, IsConflict refusal ∧
      (world.step calls (i, .commits now lost)).progress i = .ended (.error refusal)
  /-- In a conflict no attempt changes the store. -/
  conflict_unchanged : ∀ i event, Conflicting rules world.store (calls i).definition →
    (world.step calls (i, event)).store = world.store
  /-- A call that ends with a conflict error has not changed the store at any attempt. -/
  no_trace : ∀ i event more refusal,
    (RegistrationWorld.run calls (events ++ (i, event) :: more)).progress i
      = .ended (.error refusal) →
    IsConflict refusal → (world.step calls (i, event)).store = world.store
  /-- The artifacts of a call are not stored, or all of them once. -/
  artifacts_once : ∀ i,
    let stored := world.store.codeArtifacts.filter fun row =>
      decide (row.codeArtifactId ∈ (calls i).artifactIds)
    stored = [] ∨ ∃ now : StoreTime, stored = (calls i).artifacts.map fun artifact =>
      codeArtifactRow ⟨artifact.1, artifact.2, now⟩

/-- A step in a conflict changes nothing in the store. -/
theorem Reached.step_of_conflicts (h : Reached calls registry world)
    (hids : DistinctCandidates calls) (hconflict : registry.Conflicts (calls i).definition)
    (event : AttemptEvent) : (world.step calls (i, event)).store = world.store := by
  cases hprogress : world.progress i with
  | ended outcome => rw [step_of_ended hprogress]
  | attempting attempt =>
    obtain ⟨outcome, after, hattempted, hstep⟩ := h.step_attempting hids hprogress event
    rw [hstep, h.store_eq]
    cases hattempted with
    | failed hraised hevent => rfl
    | conflict hconflict hrefusal => rfl
    | committed hfree hregistered => exact absurd hconflict hfree
    | lost hraised hfree hregistered => exact absurd hconflict hfree

/-- A call that comes to a conflict error later changes nothing now. -/
theorem Reached.step_of_later_conflict (h : Reached calls registry world)
    (hids : DistinctCandidates calls) {event : AttemptEvent} {more : List (ι × AttemptEvent)}
    {refusal : Refusal} (hrefusal : IsConflict refusal)
    (hended : (more.foldl (RegistrationWorld.step calls) (world.step calls (i, event))).progress i
      = .ended (.error refusal)) :
    (world.step calls (i, event)).store = world.store := by
  cases hprogress : world.progress i with
  | ended outcome => rw [step_of_ended hprogress]
  | attempting attempt =>
    obtain ⟨outcome, after, hattempted, hstep⟩ := h.step_attempting hids hprogress event
    rw [hstep, h.store_eq]
    rcases hattempted.eq_or_registered with rfl | ⟨now, registration, hregistered⟩
    · rfl
    · have hbetween := h.attempted hids hattempted (calls i).maxAttempts attempt
      rw [hstep] at hended
      obtain ⟨later, hgrows, hlater⟩ := hbetween.foldl hids more
      have hconflict := hlater.ended_conflict i refusal hended hrefusal
      exact absurd hconflict ((hregistered.holds.mono hgrows).not_conflicts hlater.sound)

/-- **Registrations keep to their law** in every run. -/
theorem registration_law (hids : DistinctCandidates calls) (events : List (ι × AttemptEvent)) :
    RegistrationLaw calls events (RegistrationWorld.run calls events) := by
  obtain ⟨registry, h⟩ := reached_run hids events
  have hsound := h.sound
  constructor
  · rw [h.store_eq]
    constructor
    · rw [Registry.rows, List.map_map]
      exact hsound.datasets.keys
    · intro row hrow
      obtain ⟨record, hrecord, rfl⟩ := List.mem_map.mp hrow
      exact ⟨record, datasetRecord_row (hsound.dataset_admitted record hrecord)⟩
  · rw [h.store_eq]
    constructor
    · rw [Registry.rows, List.map_map]
      exact hsound.contracts.keys
    · intro row hrow
      obtain ⟨record, hrecord, rfl⟩ := List.mem_map.mp hrow
      exact ⟨record, (holdsContract_rows hsound).mpr hrecord, rfl⟩
  · intro more record hrecord
    obtain ⟨registry, later, h, hlater, hgrows⟩ := reached_run_append hids events more
    rw [h.store_eq, holdsDataset_rows h.sound] at hrecord
    rw [hlater.store_eq, holdsDataset_rows hlater.sound]
    exact hgrows.datasets.subset hrecord
  · intro more record hrecord
    obtain ⟨registry, later, h, hlater, hgrows⟩ := reached_run_append hids events more
    rw [h.store_eq, holdsContract_rows h.sound] at hrecord
    rw [hlater.store_eq, holdsContract_rows hlater.sound]
    exact hgrows.contracts.subset hrecord
  · intro i registration hended
    rw [h.store_eq]
    exact (h.ended_ok i registration hended).returned hsound
  · intro more i registration hended
    obtain ⟨registry, later, h, hlater, hgrows⟩ := reached_run_append hids events more
    rw [h.store_eq]
    exact (hlater.ended_ok i registration hended).sharesBound h.sound hlater.sound hgrows
  · intro i attempt now hattempting hfree
    rw [h.store_eq, conflicting_rows hsound] at hfree
    obtain ⟨outcome, after, hattempted, hstep⟩ :=
      h.step_attempting hids hattempting (.commits now none)
    rw [hstep]
    cases hattempted with
    | failed hraised hevent => exact absurd rfl (hevent now none)
    | conflict hconflict hrefusal => exact absurd hconflict hfree
    | committed hfree hregistered =>
      simp only [Function.update_self]
      exact ⟨_, rfl⟩
  · intro i attempt now lost hattempting hconflict
    rw [h.store_eq, conflicting_rows hsound] at hconflict
    obtain ⟨outcome, after, hattempted, hstep⟩ :=
      h.step_attempting hids hattempting (.commits now lost)
    rw [hstep]
    cases hattempted with
    | failed hraised hevent => exact absurd rfl (hevent now lost)
    | conflict hconflict hrefusal =>
      simp only [Function.update_self]
      exact ⟨_, hrefusal, rfl⟩
    | committed hfree hregistered => exact absurd hconflict hfree
    | lost hraised hfree hregistered => exact absurd hconflict hfree
  · intro i event hconflict
    rw [h.store_eq, conflicting_rows hsound] at hconflict
    exact h.step_of_conflicts hids hconflict event
  · intro i event more refusal hended hrefusal
    rw [RegistrationWorld.run, List.foldl_append] at hended
    exact h.step_of_later_conflict hids hrefusal hended
  · intro i
    rw [h.store_eq]
    exact (h.artifacts i).rows

/-! ## Two callers -/

/-- Only what the store relies on. -/
def plainRules : RegistrationRules zeroDigest where
  datasetVersion _ := .ok ()
  contractVersion contract := refuseIf (contract.referenceDatasetId = contract.targetDatasetId)
    { error := .valueError, message := "contract datasets must differ" }
  codeArtifact artifact := refuseIf (¬ ∀ content ∈ artifact.contentBytes,
      content.length = artifact.sourceByteLength ∧
        hexText (zeroDigest.digest content) = artifact.contentSha256.1.toList)
    { error := .valueError, message := "retained bytes differ from their digest or size" }
  registration definition := refuseIf (¬ (
      definition.contract.referenceDatasetId = definition.referenceDataset.datasetId ∧
      definition.contract.referenceDatasetDigest = definition.referenceDataset.semanticDigest ∧
      definition.contract.targetDatasetId = definition.targetDataset.datasetId ∧
      definition.contract.targetDatasetDigest = definition.targetDataset.semanticDigest))
    { error := .valueError, message := "contract differs from its datasets" }
  distinct_datasets := by
    intro contract h
    exact refuseIf_eq_ok.mp h
  retained_content := by
    intro artifact h
    exact not_not.mp (refuseIf_eq_ok.mp h)
  closes := by
    intro definition h
    obtain ⟨hreference, hreferenceDigest, htarget, htargetDigest⟩ :=
      not_not.mp (refuseIf_eq_ok.mp h)
    exact ⟨hreference, hreferenceDigest, htarget, htargetDigest⟩

theorem zeroHex_isSha256Hex :
    isSha256Hex "0000000000000000000000000000000000000000000000000000000000000000" = true := by
  decide

def zeroHex : Sha256Hex :=
  ⟨"0000000000000000000000000000000000000000000000000000000000000000", zeroHex_isSha256Hex⟩

def ordersVersion (datasetId : String) : DatasetVersionDefinition where
  datasetId
  semanticDigest := zeroHex
  semanticProtocol := "DFE_SEM_V1"
  canonicalProtocol := "DFE_CANONICAL_V1"
  logicalSchemaDigest := zeroHex
  connectionId := "warehouse"
  adapter := .postgresql
  driver := "psycopg"
  profile := "PG_V1"
  locatorKind := .relation
  relationScope := some .physicalOnly
  semanticPayloadJson := "\x7b\x7d"
  resolvedDefinitionJson := "\x7b\x7d"

/-- The check of two callers, who disagree on its configuration. -/
def ordersRegistration (caller : Bool) : MetadataRegistrationDefinition where
  referenceDataset := ordersVersion "orders_warehouse"
  targetDataset := ordersVersion "orders_mart"
  contract :=
    { checkId := "orders", revision := 1, configVersion := if caller then 1 else 2
      semanticDigest := zeroHex, semanticProtocol := "DFE_SEM_V1"
      canonicalProtocol := "DFE_CANONICAL_V1", comparisonSchemaDigest := zeroHex
      referenceDatasetId := "orders_warehouse", referenceDatasetDigest := zeroHex
      targetDatasetId := "orders_mart", targetDatasetDigest := zeroHex
      assurancePolicy := .exactRequired, semanticPayloadJson := "\x7b\x7d"
      resolvedDefinitionJson := "\x7b\x7d" }
  codeArtifacts := []

theorem ordersRegistration_admitted (caller : Bool) :
    plainRules.Admits (ordersRegistration caller) where
  referenceDataset := rfl
  targetDataset := rfl
  contract := by cases caller <;> decide
  codeArtifacts := by simp [ordersRegistration]
  registration := by cases caller <;> decide

def ordersCalls (caller : Bool) : RegistrationCall plainRules where
  definition := ordersRegistration caller
  admitted := ordersRegistration_admitted caller
  referenceId := if caller then 1 else 11
  targetId := if caller then 2 else 12
  contractId := if caller then 3 else 13
  artifactIds := []
  drawn := rfl
  maxAttempts := 3

/-- The first caller loses the answer to a commit and tries again; the second comes
after it. -/
def ordersEvents : List (Bool × AttemptEvent) :=
  [(true, .commits 5 (some (.driver (.operationalError "OperationalError" none)))),
    (true, .commits 6 none), (false, .commits 7 none)]

theorem ordersCalls_distinct : DistinctCandidates ordersCalls where
  reference_inj := by decide
  target_inj := by decide
  apart := by decide
  contract_inj := by decide
  artifacts_nodup := by decide
  artifacts_apart := by simp [ordersCalls]

theorem registration_law_two_callers :
    DistinctCandidates ordersCalls ∧
      RegistrationLaw ordersCalls ordersEvents (RegistrationWorld.run ordersCalls ordersEvents) :=
  ⟨ordersCalls_distinct, registration_law ordersCalls_distinct ordersEvents⟩

end ForensicData.Persistence
