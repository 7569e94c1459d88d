/-
ForensicData.Application.StoredReasons — what a stored reason says of its attempt.

Of a failed attempt the store keeps the primary reason alone. The consistency
of the attempt and its metrics are appended to the reason's safe parameters
when it is published, and are taken out of them again when it is read back.
The names they are stored under begin with `failure_` or `cleanup_`, which no
parameter of the reasons themselves does (`OwnParameters`); so what was
appended can be found again (`storedConsistencyState_of_mem`,
`storedMetrics_of_mem`).
-/
import ForensicData.Application.Failure
import Mathlib.Data.List.Nodup

namespace ForensicData.Application

open ForensicData.Comparison
open ForensicData.Lib
open ForensicData.Result

/-! ## Texts -/

def isBrace (c : Char) : Bool := c == '{' || c == '}'

/-- `text.removeprefix(start)`. -/
def withoutStart (start text : List Char) : List Char :=
  if start.isPrefixOf text = true then text.drop start.length else text

/-- `text.strip("{}")`. -/
def withoutBraces (text : List Char) : List Char :=
  ((text.dropWhile isBrace).reverse.dropWhile isBrace).reverse

/-- `UUID(text)`: 32 hexadecimal digits; a URN prefix, braces and hyphens are
optional. -/
def uuidOfText (text : String) : Option Uuid :=
  let bare := withoutBraces (withoutStart "uuid:".toList (withoutStart "urn:".toList text.toList))
  let digits := (bare.filter (· ≠ '-')).map Char.toLower
  if digits.length = 32 ∧ digits.all (isDigitOf 16) = true then some (digitsValue 16 digits)
  else none

def consistencyLevelText : ConsistencyLevel → String
  | .verified => "verified"
  | .asserted => "asserted"
  | .unknown => "unknown"

/-- `ConsistencyLevel(text)`. -/
def consistencyLevelOfText (text : String) : Option ConsistencyLevel :=
  if text = "verified" then some .verified
  else if text = "asserted" then some .asserted
  else if text = "unknown" then some .unknown
  else none

def flagText (flag : Bool) : String := if flag = true then "1" else "0"

/-! ## Parameters of a reason -/

/-- `_safe_parameter_mapping`: the parameters, each name once. -/
def safeParameterMapping (reason : ResultReason) : Except Refusal (List SafeParameter) :=
  if (reason.safeParameters.map (·.name)).Nodup then .ok reason.safeParameters
  else .error (applicationStateError "stored terminal reason has duplicate safe parameters")

/-- `values.get(name)`. -/
def valueOf (values : List SafeParameter) (name : String) : Option String :=
  (values.find? fun item => decide (item.name = name)).map (·.value)

/-- `_nonnegative_decimal`. -/
def nonnegativeDecimal (value : Option String) (name : String) : Except Refusal ℕ :=
  let refusal := applicationStateError
    s!"stored terminal reason parameter '{name}' must be nonnegative decimal text"
  match value with
  | none => .error refusal
  | some text =>
    if text ≠ "" ∧ text.toList.all (isDigitOf 10) = true then .ok (digitsValue 10 text.toList)
    else .error refusal

/-! ## Consistency -/

/-- A consistency state is stored for the failure of an attempt, or for the
cleanup after it. -/
inductive StateKind where
  | failure
  | cleanup
  deriving DecidableEq, Repr

def StateKind.stem : StateKind → String
  | .failure => "failure"
  | .cleanup => "cleanup"

/-- The parameters of `_failure_consistency_parameters`, and those that
`_cleanup_state_parameters` has after its marker. -/
def stateParameters (kind : StateKind) (state : ConsistencyState) : List SafeParameter :=
  [parameter s!"{kind.stem}_context_count" (decimalText state.contextIds.length),
   parameter s!"{kind.stem}_stable_reads" (consistencyLevelText state.stableReads),
   parameter s!"{kind.stem}_cut_aligned" (flagText state.cutAligned)]
  ++ state.contextIds.zipIdx.map fun (contextId, index) =>
    parameter s!"{kind.stem}_context_{index}" (uuidText contextId)

/-- `_failure_consistency_parameters`. -/
def failureConsistencyParameters (state : ConsistencyState) : List SafeParameter :=
  stateParameters .failure state

/-- `_cleanup_state_parameters`. -/
def cleanupStateParameters (state : ConsistencyState) : List SafeParameter :=
  parameter "cleanup_context_lost" "1" :: stateParameters .cleanup state

/-- The part that `_failure_consistency_from_reason` and
`_cleanup_state_from_reason` share. A cleanup state with asserted reads is
refused wherever it is, a failure state only without its two contexts. -/
def storedConsistencyState (kind : StateKind) (values : List SafeParameter) :
    Except Refusal ConsistencyState := do
  let count ← nonnegativeDecimal (valueOf values s!"{kind.stem}_context_count")
    s!"{kind.stem}_context_count"
  refuseIf (2 < count)
    (applicationStateError s!"stored {kind.stem} context count exceeds the endpoint boundary")
  let contextIds ← ((List.range count).mapM fun index =>
      (valueOf values s!"{kind.stem}_context_{index}").bind uuidOfText).elim
    (.error (applicationStateError s!"stored {kind.stem} context identity is invalid")) .ok
  refuseIf (¬ contextIds.Nodup)
    (applicationStateError s!"stored {kind.stem} context identities must be distinct")
  let stableReads ←
    ((valueOf values s!"{kind.stem}_stable_reads").bind consistencyLevelOfText).elim
      (.error (applicationStateError s!"stored {kind.stem} stable-read level is invalid")) .ok
  refuseIf (kind = .cleanup ∧ stableReads = .asserted)
    (applicationStateError "lost cleanup context cannot retain asserted stable reads")
  let cutAlignedText := valueOf values s!"{kind.stem}_cut_aligned"
  refuseIf (cutAlignedText ≠ some "0" ∧ cutAlignedText ≠ some "1")
    (applicationStateError s!"stored {kind.stem} cut-alignment marker is invalid")
  let cutAligned := decide (cutAlignedText = some "1")
  refuseIf (cutAligned = true ∧ contextIds.length ≠ 2)
    (applicationStateError s!"stored aligned {kind.stem} state requires two contexts")
  refuseIf (stableReads = .verified ∧ contextIds.length ≠ 2)
    (applicationStateError s!"stored verified {kind.stem} state requires two contexts")
  refuseIf (kind = .failure ∧ stableReads = .asserted ∧ contextIds.length ≠ 2)
    (applicationStateError "stored asserted failure state requires two contexts")
  return { contextIds, stableReads, cutAligned }

/-- `_failure_consistency_from_reason`. -/
def failureConsistencyFromReason (reason : ResultReason) :
    Except Refusal (Option ConsistencyState) := do
  let values ← safeParameterMapping reason
  match valueOf values "failure_context_count" with
  | none => return none
  | some _ => some <$> storedConsistencyState .failure values

/-- `_cleanup_state_from_reason`. -/
def cleanupStateFromReason (reason : ResultReason) :
    Except Refusal (Option ConsistencyState) := do
  let values ← safeParameterMapping reason
  match valueOf values "cleanup_context_lost" with
  | none => return none
  | some marker =>
    refuseIf (marker ≠ "1")
      (applicationStateError "stored cleanup context-lost marker is invalid")
    some <$> storedConsistencyState .cleanup values

/-! ## Metrics -/

/-- Metrics as parameters whose names begin with a text. -/
def metricsParameters (start : String) (metrics : ResultMetrics) : List SafeParameter :=
  [parameter (start ++ "queries") (decimalText metrics.queries),
   parameter (start ++ "fetched_records") (decimalText metrics.fetchedRecords),
   parameter (start ++ "result_bytes") (decimalText metrics.resultBytes),
   parameter (start ++ "fingerprint_nodes") (decimalText metrics.fingerprintNodes),
   parameter (start ++ "coordinator_peak_bytes") (decimalText metrics.coordinatorPeakBytes),
   parameter (start ++ "elapsed_milliseconds") (decimalText metrics.elapsedMilliseconds)]

/-- `_failure_metrics_parameters`. -/
def failureMetricsParameters (metrics : ResultMetrics) : List SafeParameter :=
  metricsParameters "failure_metrics_" metrics

/-- The metrics stored under names that begin with a text. -/
def storedMetrics (start : String) (values : List SafeParameter) :
    Except Refusal ResultMetrics := do
  let queries ← nonnegativeDecimal (valueOf values (start ++ "queries")) (start ++ "queries")
  let fetchedRecords ← nonnegativeDecimal (valueOf values (start ++ "fetched_records"))
    (start ++ "fetched_records")
  let resultBytes ← nonnegativeDecimal (valueOf values (start ++ "result_bytes"))
    (start ++ "result_bytes")
  let fingerprintNodes ← nonnegativeDecimal (valueOf values (start ++ "fingerprint_nodes"))
    (start ++ "fingerprint_nodes")
  let coordinatorPeakBytes ← nonnegativeDecimal
    (valueOf values (start ++ "coordinator_peak_bytes")) (start ++ "coordinator_peak_bytes")
  let elapsedMilliseconds ← nonnegativeDecimal
    (valueOf values (start ++ "elapsed_milliseconds")) (start ++ "elapsed_milliseconds")
  return { queries, fetchedRecords, resultBytes, fingerprintNodes, coordinatorPeakBytes,
           elapsedMilliseconds }

/-- `_failure_metrics_from_reason`. -/
def failureMetricsFromReason (reason : ResultReason) : Except Refusal (Option ResultMetrics) := do
  let values ← safeParameterMapping reason
  match valueOf values "failure_metrics_queries" with
  | none => return none
  | some _ => some <$> storedMetrics "failure_metrics_" values

/-- `_mapping_metrics`. -/
def mappingMetrics (reason : ResultReason) : Except Refusal ResultMetrics :=
  if reason.code ≠ .lossyTransport then
    .ok { queries := 0, fetchedRecords := 0, resultBytes := 0, fingerprintNodes := 0
          coordinatorPeakBytes := 0, elapsedMilliseconds := 0 }
  else do
    let values ← safeParameterMapping reason
    storedMetrics "" values

/-! ## Key mappings -/

/-- The counts of a side's key summary as they were stored. -/
structure MappingCounts where
  rowCount : ℕ
  nullKeyCount : ℕ
  invalidKeyCount : ℕ
  validKeyCount : ℕ
  distinctKeyCount : ℕ

/-- The counts of one side in `_mapping_counts`. -/
def storedCounts (values : List SafeParameter) (side : String) : Except Refusal MappingCounts := do
  let rowCount ← nonnegativeDecimal (valueOf values (side ++ "_row_count")) (side ++ "_row_count")
  let nullKeyCount ← nonnegativeDecimal (valueOf values (side ++ "_null_key_count"))
    (side ++ "_null_key_count")
  let invalidKeyCount ← nonnegativeDecimal (valueOf values (side ++ "_invalid_key_count"))
    (side ++ "_invalid_key_count")
  let validKeyCount ← nonnegativeDecimal (valueOf values (side ++ "_valid_key_count"))
    (side ++ "_valid_key_count")
  let distinctKeyCount ← nonnegativeDecimal (valueOf values (side ++ "_distinct_key_count"))
    (side ++ "_distinct_key_count")
  return { rowCount, nullKeyCount, invalidKeyCount, validKeyCount, distinctKeyCount }

/-- The checks of one side in `_mapping_counts`. -/
def requireCounts (side : String) (counts : MappingCounts) : Except Refusal Unit := do
  refuseIf (counts.rowCount ≠ counts.nullKeyCount + counts.invalidKeyCount + counts.validKeyCount)
    (applicationStateError s!"stored {side} key-summary counts do not partition row_count")
  refuseIf (counts.validKeyCount < counts.distinctKeyCount)
    (applicationStateError s!"stored {side} distinct key count exceeds valid key count")

/-- `_mapping_counts`. -/
def mappingCounts (values : List SafeParameter) :
    Except Refusal (MappingCounts × MappingCounts) := do
  let reference ← storedCounts values "reference"
  let target ← storedCounts values "target"
  requireCounts "reference" reference
  requireCounts "target" target
  return (reference, target)

/-- `parameter_names` of `_mapping_contract_reason`. -/
def mappingParameterNames : List String :=
  ["reference_row_count", "reference_null_key_count", "reference_invalid_key_count",
   "reference_valid_key_count", "reference_distinct_key_count", "target_row_count",
   "target_null_key_count", "target_invalid_key_count", "target_valid_key_count",
   "target_distinct_key_count"]

/-- Null keys and duplicates. -/
def MappingCounts.violations (counts : MappingCounts) : ℕ :=
  counts.nullKeyCount + (counts.validKeyCount - counts.distinctKeyCount)

/-- `_mapping_contract_reason`. -/
def mappingContractReason (reason : ResultReason) : Except Refusal (Option ResultReason) :=
  if reason.code ≠ .lossyTransport then .ok none
  else do
    let values ← safeParameterMapping reason
    let (reference, target) ← mappingCounts values
    if reference.violations + target.violations = 0 then return none
    else
      return some (reasonOf .contractViolation "validate_integer_key_contract"
        "scoped integer-key validation found null or duplicate keys"
        (mappingParameterNames.map fun name => parameter name ((valueOf values name).getD "")))

/-- `_mapping_context_ids`. -/
def mappingContextIds (reason : ResultReason) : Except Refusal (List Uuid) :=
  if reason.code ≠ .lossyTransport then .ok []
  else do
    let values ← safeParameterMapping reason
    match valueOf values "reference_read_context_id", valueOf values "target_read_context_id" with
    | none, none => return []
    | some reference, some target =>
      match uuidOfText reference, uuidOfText target with
      | some reference, some target => do
        refuseIf (reference = target)
          (applicationStateError "stored key-mapping context identities must differ")
        return [reference, target]
      | _, _ => .error (applicationStateError "stored key-mapping context identity is invalid")
    | _, _ => .error (applicationStateError "stored key-mapping context identity is incomplete")

/-! ## Reading texts back -/

@[simp] theorem toList_decimalText (value : ℕ) :
    (decimalText value).toList = Nat.toDigits 10 value := by
  simp [decimalText]

theorem decimalText_ne_empty (value : ℕ) : decimalText value ≠ "" := by
  intro h
  have hdigits := toList_decimalText value
  rw [h] at hdigits
  rw [String.toList_empty] at hdigits
  exact Nat.toDigits_ne_nil hdigits.symm

@[simp] theorem nonnegativeDecimal_decimalText (value : ℕ) (name : String) :
    nonnegativeDecimal (some (decimalText value)) name = .ok value := by
  have hdigits : (Nat.toDigits 10 value).all (isDigitOf 10) = true :=
    List.all_eq_true.mpr fun c hc => isDigitOf_of_mem_toDigits hc
  simp [nonnegativeDecimal, decimalText_ne_empty, -List.all_eq_true, hdigits]

@[simp] theorem consistencyLevelOfText_text (level : ConsistencyLevel) :
    consistencyLevelOfText (consistencyLevelText level) = some level := by
  cases level <;> rfl

theorem withoutStart_of_notMem {start text : List Char} {c : Char} (hstart : c ∈ start)
    (htext : c ∉ text) : withoutStart start text = text := by
  unfold withoutStart
  split
  · rename_i h
    exact absurd ((List.isPrefixOf_iff_prefix.mp h).subset hstart) htext
  · rfl

theorem dropWhile_of_all {p : Char → Bool} {text : List Char} (h : ∀ c ∈ text, p c = false) :
    text.dropWhile p = text := by
  cases text with
  | nil => rfl
  | cons c text => simp [h c (by simp)]

theorem withoutBraces_of_none {text : List Char} (h : ∀ c ∈ text, isBrace c = false) :
    withoutBraces text = text := by
  rw [withoutBraces, dropWhile_of_all h,
    dropWhile_of_all fun c hc => h c (List.mem_reverse.mp hc), List.reverse_reverse]

/-- What the digits of a UUID are not. -/
theorem hexDigit_cases {c : Char} (h : isDigitOf 16 c = true) :
    c ≠ 'u' ∧ c ≠ '-' ∧ isBrace c = false ∧ c.toLower = c := by
  have hchar := digitChar_digitValue (of_decide_eq_true h)
  have hvalue : digitValue c < 16 := of_decide_eq_true h
  generalize digitValue c = value at hchar hvalue
  rw [← hchar]
  interval_cases value <;> decide

/-- A UUID is read back from its text. -/
@[simp] theorem uuidOfText_uuidText {id : Uuid} (h : id < 2 ^ 128) :
    uuidOfText (uuidText id) = some id := by
  have hhex : ∀ c ∈ fixedDigits 16 32 id, isDigitOf 16 c = true := fun c hc =>
    isDigitOf_of_mem_fixedDigits (by omega) (by omega) hc
  have hlength : (fixedDigits 16 32 id).length = 32 := length_fixedDigits 16 32 id
  have hvalue : digitsValue 16 (fixedDigits 16 32 id) = id :=
    digitsValue_fixedDigits (by omega) (by omega) (by omega)
  have htext : (uuidText id).toList.filter (· ≠ '-') = fixedDigits 16 32 id := by
    rw [uuidText, String.toList_ofList]
    generalize fixedDigits 16 32 id = digits at hhex
    have hkept : ∀ part : List Char, (∀ c ∈ part, c ∈ digits) → part.filter (· ≠ '-') = part :=
      fun part hpart => List.filter_eq_self.mpr fun c hc => by
        simpa using (hexDigit_cases (hhex c (hpart c hc))).2.1
    have htake : ∀ skipped count, ∀ c ∈ (digits.drop skipped).take count, c ∈ digits :=
      fun skipped count c hc => List.mem_of_mem_drop (List.mem_of_mem_take hc)
    simp only [List.filter_append, List.filter_cons_of_neg, ne_eq, not_true_eq_false,
      decide_false, Bool.false_eq_true, not_false_eq_true]
    have hjoin : ∀ skipped, (digits.drop skipped).take 4 ++ digits.drop (skipped + 4)
        = digits.drop skipped := by
      intro skipped
      rw [← List.drop_drop, List.take_append_drop]
    rw [hkept _ fun c hc => List.mem_of_mem_take hc, hkept _ (htake 8 4), hkept _ (htake 12 4),
      hkept _ (htake 16 4), hkept _ fun c hc => List.mem_of_mem_drop hc, hjoin 16, hjoin 12,
      hjoin 8, List.take_append_drop]
  have hchars : ∀ c ∈ (uuidText id).toList, c ≠ 'u' ∧ isBrace c = false := by
    intro c hc
    by_cases hhyphen : c = '-'
    · rw [hhyphen]
      decide
    · have hdigit : c ∈ (uuidText id).toList.filter (· ≠ '-') :=
        List.mem_filter.mpr ⟨hc, by simpa using hhyphen⟩
      rw [htext] at hdigit
      have hcases := hexDigit_cases (hhex c hdigit)
      exact ⟨hcases.1, hcases.2.2.1⟩
  have hnone : 'u' ∉ (uuidText id).toList := fun hu => (hchars _ hu).1 rfl
  have hlower : (fixedDigits 16 32 id).map Char.toLower = fixedDigits 16 32 id :=
    (List.map_congr_left fun c hc => (hexDigit_cases (hhex c hc)).2.2.2).trans (List.map_id' _)
  unfold uuidOfText
  rw [withoutStart_of_notMem (c := 'u') (by decide) hnone,
    withoutStart_of_notMem (c := 'u') (by decide) hnone,
    withoutBraces_of_none fun c hc => (hchars c hc).2]
  dsimp only
  rw [htext, hlower, if_pos ⟨hlength, List.all_eq_true.mpr hhex⟩, hvalue]

/-! ## Finding parameters -/

theorem valueOf_eq_none {values : List SafeParameter} {name : String} :
    valueOf values name = none ↔ name ∉ values.map (·.name) := by
  simp [valueOf, List.find?_eq_none]

theorem valueOf_of_mem {values : List SafeParameter} (hnodup : (values.map (·.name)).Nodup)
    {item : SafeParameter} (hitem : item ∈ values) :
    valueOf values item.name = some item.value := by
  induction values with
  | nil => simp at hitem
  | cons first rest ih =>
    rw [List.map_cons, List.nodup_cons] at hnodup
    by_cases hname : first.name = item.name
    · have hfirst : first = item := by
        rcases List.mem_cons.mp hitem with h | h
        · exact h.symm
        · exact absurd (hname ▸ List.mem_map_of_mem h) hnodup.1
      simp [valueOf, hfirst]
    · have hrest : item ∈ rest := by
        rcases List.mem_cons.mp hitem with h | h
        · exact absurd (congrArg SafeParameter.name h.symm) hname
        · exact h
      have hfound := ih hnodup.2 hrest
      simpa [valueOf, hname] using hfound

/-- The value of a parameter that is among the values, by its parts. -/
theorem valueOf_of_parameter {values : List SafeParameter}
    (hnodup : (values.map (·.name)).Nodup) {name value : String}
    (hitem : parameter name value ∈ values) : valueOf values name = some value :=
  valueOf_of_mem hnodup hitem

/-! ## Reading states back -/

/-- A state that can be stored for the failure, or for the cleanup, of an attempt. -/
structure Storable (kind : StateKind) (state : ConsistencyState) : Prop where
  count_le : state.contextIds.length ≤ 2
  distinct : state.contextIds.Nodup
  ids_lt : ∀ id ∈ state.contextIds, id < 2 ^ 128
  aligned : state.cutAligned = true → state.contextIds.length = 2
  verified : state.stableReads = .verified → state.contextIds.length = 2
  asserted : state.stableReads = .asserted → kind = .failure ∧ state.contextIds.length = 2

/-- A list is collected by its positions. -/
theorem mapM_range_eq_some {α : Type} {f : ℕ → Option α} {items : List α}
    (h : ∀ index item, items[index]? = some item → f index = some item) :
    (List.range items.length).mapM f = some items := by
  induction items using List.reverseRecOn with
  | nil => rfl
  | append_singleton items item ih =>
    have hitems : (List.range items.length).mapM f = some items := by
      apply ih
      intro index found hfound
      apply h
      rw [List.getElem?_append_left (List.getElem?_eq_some_iff.mp hfound).1, hfound]
    have hlast : f items.length = some item := h _ _ (by simp)
    simp [List.range_succ, List.mapM_append, hitems, hlast]

section Decoding

variable {values : List SafeParameter} {kind : StateKind} {state : ConsistencyState}

theorem mem_stateParameters_context {index : ℕ} {contextId : Uuid}
    (h : state.contextIds[index]? = some contextId) :
    parameter s!"{kind.stem}_context_{index}" (uuidText contextId)
      ∈ stateParameters kind state := by
  refine List.mem_append_right _ (List.mem_map.mpr ⟨(contextId, index), ?_, rfl⟩)
  exact List.mem_zipIdx_iff_getElem?.mpr h

/-- The identifiers are found in their order. -/
theorem storedContextIds_of_mem (hnodup : (values.map (·.name)).Nodup)
    (hstate : Storable kind state) (hmem : ∀ item ∈ stateParameters kind state, item ∈ values) :
    ((List.range state.contextIds.length).mapM fun index =>
        (valueOf values s!"{kind.stem}_context_{index}").bind uuidOfText)
      = some state.contextIds := by
  have hfound : ∀ (index : ℕ) (contextId : Uuid), state.contextIds[index]? = some contextId →
      (valueOf values s!"{kind.stem}_context_{index}").bind uuidOfText = some contextId := by
    intro index contextId h
    rw [valueOf_of_parameter hnodup (hmem _ (mem_stateParameters_context h)), Option.bind_some,
      uuidOfText_uuidText (hstate.ids_lt contextId (List.mem_of_getElem? h))]
  exact mapM_range_eq_some hfound

/-- A stored state is read back from parameters that contain it. -/
theorem storedConsistencyState_of_mem (hnodup : (values.map (·.name)).Nodup)
    (hstate : Storable kind state) (hmem : ∀ item ∈ stateParameters kind state, item ∈ values) :
    storedConsistencyState kind values = .ok state := by
  have hcount : valueOf values s!"{kind.stem}_context_count"
      = some (decimalText state.contextIds.length) :=
    valueOf_of_parameter hnodup (hmem _ (by simp [stateParameters]))
  have hreads : valueOf values s!"{kind.stem}_stable_reads"
      = some (consistencyLevelText state.stableReads) :=
    valueOf_of_parameter hnodup (hmem _ (by simp [stateParameters]))
  have haligned : valueOf values s!"{kind.stem}_cut_aligned" = some (flagText state.cutAligned) :=
    valueOf_of_parameter hnodup (hmem _ (by simp [stateParameters]))
  have hids := storedContextIds_of_mem hnodup hstate hmem
  have hflag : decide (some (flagText state.cutAligned) = some "1") = state.cutAligned := by
    cases state.cutAligned <;> rfl
  have hmarker : ¬ (some (flagText state.cutAligned) ≠ some "0"
      ∧ some (flagText state.cutAligned) ≠ some "1") := by
    cases state.cutAligned <;> decide
  have hlost : ¬ (kind = .cleanup ∧ state.stableReads = .asserted) := by
    intro ⟨hkind, hreads⟩
    rw [(hstate.asserted hreads).1] at hkind
    cases hkind
  unfold storedConsistencyState
  simp only [hcount, hreads, haligned, nonnegativeDecimal_decimalText, Option.bind_some,
    consistencyLevelOfText_text, Option.elim_some, bind_eq_ok, refuseIf_eq_ok, pure_eq_ok,
    Except.ok.injEq, exists_eq_left', hids, hflag, exists_const]
  exact ⟨Nat.not_lt.mpr hstate.count_le, not_not.mpr hstate.distinct, hlost, hmarker,
    fun h => h.2 (hstate.aligned h.1), fun h => h.2 (hstate.verified h.1),
    fun h => h.2.2 (hstate.asserted h.2.1).2, trivial⟩

theorem storedMetrics_of_mem {start : String} {metrics : ResultMetrics}
    (hnodup : (values.map (·.name)).Nodup)
    (hmem : ∀ item ∈ metricsParameters start metrics, item ∈ values) :
    storedMetrics start values = .ok metrics := by
  have hvalue : ∀ name value, parameter name value ∈ metricsParameters start metrics →
      valueOf values name = some value :=
    fun name value h => valueOf_of_parameter hnodup (hmem _ h)
  unfold storedMetrics
  rw [hvalue (start ++ "queries") (decimalText metrics.queries) (by simp [metricsParameters]),
    hvalue (start ++ "fetched_records") (decimalText metrics.fetchedRecords)
      (by simp [metricsParameters]),
    hvalue (start ++ "result_bytes") (decimalText metrics.resultBytes)
      (by simp [metricsParameters]),
    hvalue (start ++ "fingerprint_nodes") (decimalText metrics.fingerprintNodes)
      (by simp [metricsParameters]),
    hvalue (start ++ "coordinator_peak_bytes") (decimalText metrics.coordinatorPeakBytes)
      (by simp [metricsParameters]),
    hvalue (start ++ "elapsed_milliseconds") (decimalText metrics.elapsedMilliseconds)
      (by simp [metricsParameters])]
  simp only [nonnegativeDecimal_decimalText]
  rfl

end Decoding

end ForensicData.Application
