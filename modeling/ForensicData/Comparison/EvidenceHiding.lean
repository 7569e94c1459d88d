/-
ForensicData.Comparison.EvidenceHiding — what evidence keeps out of sight.

Two runs of `_retain_exact_differences` over differences that agree in all that
the evidence policy stores cannot be told apart: the records, their digests and
every counter are the same (`evidence_hides_unstored`). A hidden value reaches
no record, so it reaches neither its length nor the budget.
-/
import ForensicData.Comparison.Evidence
import ForensicData.Comparison.PartialRuns
import ForensicData.Contracts.EvidenceTheorems

namespace ForensicData.Comparison

open ForensicData.Canonical
open ForensicData.Contracts
open ForensicData.Lib
open ForensicData.Lib.Generator
open ForensicData.Reporting

variable {budgets : ExecutionBudgets} {Body : Type}

/-! ## Differences that look alike -/

/-- Two rows with the same number of values, and with the same values where the
action is to store. -/
structure RowsLookAlike (actions : List EvidenceAction) (left right : ExactRow) : Prop where
  length : left.values.length = right.values.length
  stored : ∀ index : ℕ, actions[index]? = some EvidenceAction.store →
    left.values[index]? = right.values[index]?

/-- Two differences that agree in all that the policy stores of their fields. -/
structure DifferencesLookAlike (fields : List FieldSchema) (policy : EvidenceDefinition)
    (left right : ExactDifference) : Prop where
  kind : left.kind = right.kind
  segmentSequence : left.segmentSequence = right.segmentSequence
  keyRow : RowsLookAlike (policy.actions (fields.map FieldSchema.name)) left.keyRow right.keyRow
  referenceRow : Option.Rel (RowsLookAlike (policy.actions (fields.map FieldSchema.name)))
    left.referenceRow right.referenceRow
  targetRow : Option.Rel (RowsLookAlike (policy.actions (fields.map FieldSchema.name)))
    left.targetRow right.targetRow

/-! ## Records -/

theorem evidenceFieldValue_congr {field : FieldSchema} {left right : Option DecodedValue}
    {action : EvidenceAction} (h : action = .store → left = right) :
    evidenceFieldValue field left action = evidenceFieldValue field right action := by
  cases action with
  | store => rw [h rfl]
  | _ => rfl

/-- A group of values reads the values that are stored, and the number of all. -/
theorem groupValues_congr {shown : FieldSchema → Bool} {fields : List FieldSchema}
    {left right : List (Option DecodedValue)} {actions : List EvidenceAction}
    (hlength : left.length = right.length)
    (hstored : ∀ index : ℕ, actions[index]? = some EvidenceAction.store →
      left[index]? = right[index]?) :
    groupValues shown fields left actions = groupValues shown fields right actions := by
  induction fields generalizing left right actions with
  | nil => cases left <;> cases right <;> cases actions <;> rfl
  | cons field fields ih =>
    cases left with
    | nil =>
      have hright : right = [] := List.eq_nil_of_length_eq_zero hlength.symm
      rw [hright]
    | cons value left =>
      cases right with
      | nil => simp at hlength
      | cons value' right =>
        cases actions with
        | nil => rfl
        | cons action actions =>
          have hhead : action = .store → value = value' := by
            intro haction
            simpa [haction] using hstored 0
          have htail := ih (Nat.succ.inj hlength) fun index hindex => by
            simpa using hstored (index + 1) (by simpa using hindex)
          simp only [groupValues]
          rw [evidenceFieldValue_congr hhead, htail]

theorem sideEvidenceValues_congr {left right : Option ExactRow} {fields : List FieldSchema}
    {actions : List EvidenceAction} {key : List String}
    (h : Option.Rel (RowsLookAlike actions) left right) :
    sideEvidenceValues left fields actions key = sideEvidenceValues right fields actions key := by
  cases h with
  | none => rfl
  | some h =>
    simp only [sideEvidenceValues]
    rw [h.length, groupValues_congr h.length h.stored]

/-- A difference is written down without its hidden values. -/
theorem differenceBody_congr {sha256 : Sha256} {fields : List FieldSchema} {key : List String}
    {policy : EvidenceDefinition} {left right : ExactDifference}
    (h : DifferencesLookAlike fields policy left right) :
    differenceBody sha256 fields key policy left =
      differenceBody sha256 fields key policy right := by
  unfold differenceBody
  rw [h.keyRow.length, h.kind]
  cases hactions : evidenceActions fields policy with
  | error refusal => rfl
  | ok actions =>
    obtain ⟨-, rfl⟩ := evidenceActions_eq_ok.mp hactions
    simp only [bind, Except.bind]
    rw [groupValues_congr h.keyRow.length h.keyRow.stored,
      sideEvidenceValues_congr h.referenceRow, sideEvidenceValues_congr h.targetRow]

/-! ## Runs -/

/-- The inputs of a run that writes its evidence under a policy. -/
def ComparisonInputs.withEvidence (inputs : ComparisonInputs DifferenceBody) (sha256 : Sha256)
    (fields : List FieldSchema) (key : List String) (policy : EvidenceDefinition) :
    ComparisonInputs DifferenceBody :=
  { inputs with
    evidenceBody := fun difference =>
      (differenceBody sha256 fields key policy difference).mapError Cause.ofRefusal
    recordBytes := fun record => (canonicalDifferenceRecordBytes record).length }

/-- The loop of `_retain_exact_differences` without its deadline checks. -/
def retainAll (budgets : ExecutionBudgets) (inputs : ComparisonInputs Body)
    (progress : Progress Body) : List ExactDifference → Except Cause (Progress Body)
  | [] => .ok progress
  | difference :: rest => do
    let record ← differenceRecord inputs progress.foundRecords difference
    retainAll budgets inputs (progress.retain budgets record (inputs.recordBytes record)) rest

/-- Two differences are recorded alike under every number. -/
def RecordedAlike (inputs : ComparisonInputs Body) (left right : ExactDifference) : Prop :=
  ∀ sequence, differenceRecord inputs sequence left = differenceRecord inputs sequence right

theorem recordedAlike_of_lookAlike {inputs : ComparisonInputs DifferenceBody} {sha256 : Sha256}
    {fields : List FieldSchema} {key : List String} {policy : EvidenceDefinition}
    {left right : ExactDifference} (h : DifferencesLookAlike fields policy left right) :
    RecordedAlike (inputs.withEvidence sha256 fields key policy) left right := by
  intro sequence
  simp only [differenceRecord, ComparisonInputs.withEvidence]
  rw [differenceBody_congr h, h.segmentSequence, h.kind]

variable {inputs : ComparisonInputs Body} {left right : List ExactDifference}

theorem retainAll_congr (h : List.Forall₂ (RecordedAlike inputs) left right)
    (progress : Progress Body) :
    retainAll budgets inputs progress left = retainAll budgets inputs progress right := by
  induction h generalizing progress with
  | nil => rfl
  | cons hhead _ ih =>
    simp only [retainAll]
    rw [hhead]
    congr 1
    funext record
    exact ih _

/-- One round of the loop. -/
def retainStep (inputs : ComparisonInputs Body) (sources : Sources budgets)
    (progress : Progress Body) (item : ExactDifference × ℕ) :
    Engine budgets Body (Progress Body) := do
  requireDeadlineEvery sources item.2
  let record ← lift (differenceRecord inputs progress.foundRecords item.1)
  return progress.retain budgets record (inputs.recordBytes record)

theorem retainExactDifferences_eq (sources : Sources budgets) (progress : Progress Body)
    (differences : List ExactDifference) :
    retainExactDifferences inputs sources progress differences =
      (do
        let progress ← fold (retainStep inputs sources) progress differences.zipIdx
        requireDeadline sources
        return progress) := rfl

/-- Differences that are recorded alike make the same run. -/
theorem fold_retainStep_congr (h : List.Forall₂ (RecordedAlike inputs) left right)
    (sources : Sources budgets) (progress : Progress Body) (index : ℕ) :
    fold (retainStep inputs sources) progress (left.zipIdx index) =
      fold (retainStep inputs sources) progress (right.zipIdx index) := by
  induction h generalizing progress index with
  | nil => rfl
  | cons hhead _ ih =>
    simp only [List.zipIdx_cons, fold_cons, retainStep]
    rw [hhead]
    congr 1
    funext progress
    exact ih progress (index + 1)

/-- A run that ends has passed its first step and gone on from some world. -/
theorem result_after {α : Type} {first : Engine budgets Body α}
    {f : α → Engine budgets Body (Progress Body)} {world : World budgets}
    {result : Progress Body} (h : ((first >>= f) world).result = .ok result) :
    ∃ a later, (first world).result = .ok a ∧ (f a later).result = .ok result := by
  cases hfirst : (first world).result with
  | error cause =>
    rw [bind_of_error hfirst] at h
    cases h
  | ok a =>
    rw [bind_of_ok hfirst] at h
    exact ⟨a, _, rfl, h⟩

/-- What a run that ends retains does not depend on the time it takes. -/
theorem retainAll_of_result {sources : Sources budgets} {progress result : Progress Body}
    {differences : List ExactDifference} {index : ℕ} {world : World budgets}
    (h : (fold (retainStep inputs sources) progress (differences.zipIdx index) world).result =
      .ok result) : retainAll budgets inputs progress differences = .ok result := by
  induction differences generalizing progress index world with
  | nil => exact h
  | cons difference differences ih =>
    rw [List.zipIdx_cons, fold_cons, retainStep, bind_assoc] at h
    obtain ⟨_, afterCheck, -, h⟩ := result_after h
    rw [bind_assoc] at h
    obtain ⟨record, afterRecord, hrecord, h⟩ := result_after h
    rw [pure_bind] at h
    rw [retainAll, show differenceRecord inputs progress.foundRecords difference = .ok record from
      hrecord]
    exact ih h

theorem retainAll_of_retained {sources : Sources budgets} {progress result : Progress Body}
    {differences : List ExactDifference} {world : World budgets}
    (h : (retainExactDifferences inputs sources progress differences world).result =
      .ok result) : retainAll budgets inputs progress differences = .ok result := by
  rw [retainExactDifferences_eq] at h
  obtain ⟨kept, afterLoop, hfold, h⟩ := result_after h
  obtain ⟨_, afterCheck, -, h⟩ := result_after h
  rw [retainAll_of_result hfold]
  exact h

/-! ## Nothing hidden is retained or counted -/

/-- Differences that agree in all that the policy stores are retained alike:
from one world the whole runs are the same, and from any two worlds two runs
that end leave the same progress. -/
theorem evidence_hides_unstored (inputs : ComparisonInputs DifferenceBody) (sha256 : Sha256)
    (fields : List FieldSchema) (key : List String) (policy : EvidenceDefinition)
    (progress : Progress DifferenceBody) {left right : List ExactDifference}
    (h : List.Forall₂ (DifferencesLookAlike fields policy) left right) :
    (∀ (sources : Sources budgets) (world : World budgets),
      retainExactDifferences (inputs.withEvidence sha256 fields key policy) sources progress left
          world =
        retainExactDifferences (inputs.withEvidence sha256 fields key policy) sources progress
          right world) ∧
    ∀ (sources sources' : Sources budgets) (world world' : World budgets)
      (after after' : Progress DifferenceBody),
      (retainExactDifferences (inputs.withEvidence sha256 fields key policy) sources progress left
        world).result = .ok after →
      (retainExactDifferences (inputs.withEvidence sha256 fields key policy) sources' progress
        right world').result = .ok after' →
      after = after' := by
  have hrecorded : List.Forall₂ (RecordedAlike (inputs.withEvidence sha256 fields key policy))
      left right := h.imp fun _ _ hpair => recordedAlike_of_lookAlike hpair
  constructor
  · intro sources world
    rw [retainExactDifferences_eq, retainExactDifferences_eq,
      fold_retainStep_congr hrecorded sources progress 0]
  · intro sources sources' world world' after after' hafter hafter'
    have hleft := retainAll_of_retained hafter
    rw [retainAll_congr hrecorded, retainAll_of_retained hafter', Except.ok.injEq] at hleft
    exact hleft.symm

/-! ## A redacted note -/

/-- An order number that is stored, and a note that is redacted. -/
def noteFields : List FieldSchema :=
  [{ name := "id", logicalType := .int64, nullable := false, parameters := .none
     normalization := .none, fits := FieldParameters.fit_int64 },
   { name := "note", logicalType := .string, nullable := true, parameters := .none
     normalization := .none, fits := FieldParameters.fit_string }]

def notePolicy : EvidenceDefinition :=
  { sqlCapture := .disabled, ddlCapture := .disabled
    fields := [{ fieldName := "id", action := .store }], unspecifiedFields := .redact }

/-- A row that only the reference has. -/
def missingOrder (note : Option String) : ExactDifference :=
  let row : ExactRow :=
    { segmentId := "0", keyValue := 7, keyEnvelope := [], rowEnvelope := []
      values := [some (.integer 7), note.map .text], key_int64 := by decide }
  { segmentSequence := 0, kind := .missing, keyRow := row, referenceRow := some row
    targetRow := none }

def noteInputs : ComparisonInputs DifferenceBody :=
  { sampleInputs with
    evidenceBody := fun _ => .error (.ofRefusal fieldCountDiffers)
    recordBytes := fun _ => 0 }

theorem missingOrder_lookAlike (note note' : Option String) :
    DifferencesLookAlike noteFields notePolicy (missingOrder note) (missingOrder note') := by
  have hrow : RowsLookAlike (notePolicy.actions (noteFields.map FieldSchema.name))
      (missingOrder note).keyRow (missingOrder note').keyRow := by
    refine ⟨rfl, fun index hindex => ?_⟩
    match index with
    | 0 => rfl
    | 1 => simp [noteFields, notePolicy, EvidenceDefinition.actions, List.lookup_cons] at hindex
    | index + 2 => rfl
  exact ⟨rfl, rfl, hrow, .some hrow, .none⟩

/-- A note and its absence leave the same run. -/
theorem evidence_hides_note :
    retainExactDifferences (noteInputs.withEvidence constantDigest noteFields ["id"] notePolicy)
        (sampleSources 0) ((sampleSources 0).initialProgress DifferenceBody)
        [missingOrder (some "late")] (sampleSources 0).start =
      retainExactDifferences (noteInputs.withEvidence constantDigest noteFields ["id"] notePolicy)
        (sampleSources 0) ((sampleSources 0).initialProgress DifferenceBody)
        [missingOrder none] (sampleSources 0).start :=
  (evidence_hides_unstored noteInputs constantDigest noteFields ["id"] notePolicy _
    (.cons (missingOrder_lookAlike _ _) .nil)).1 _ _

end ForensicData.Comparison
