/-
ForensicData.Application.InterruptionTheorems — the two reasons of an interruption.

`interruptionReasonCode` and `interruptionFailureClass` depend on little of the
cause: its class, its completion, whether it has a text and whether the
direction of the ClickHouse endpoint is known (`interruptionReasonCode_congr`,
`publishedCode_congr`). On those they are compared class by class
(`codes_agree_iff`).
-/
import ForensicData.Application.Interruption
import ForensicData.Comparison.PartialRuns

namespace ForensicData.Application

open ForensicData.Comparison
open ForensicData.Lib.Generator
open ForensicData.Result

variable {Body Cut : Type} {recordBytes : DifferenceRecord Body → ℕ} {budgets : ExecutionBudgets}

/-! ## What the classifications depend on -/

theorem isAny_congr {first second : Cause} (h : first.refusal.error = second.refusal.error) :
    first.isAny = second.isAny := by
  funext classes
  rw [Cause.isAny, Cause.isAny, h]

theorem completes_congr {first second : Cause} (h : first.refusal.error = second.refusal.error)
    (hcompletion : first.completion = second.completion) : first.completes = second.completes := by
  funext raised completion
  rw [Cause.completes, Cause.completes, h, hcompletion]

theorem interruptionReasonCode_congr {first second : Cause}
    (h : first.refusal.error = second.refusal.error)
    (hcompletion : first.completion = second.completion) :
    interruptionReasonCode first = interruptionReasonCode second := by
  unfold interruptionReasonCode
  rw [isAny_congr h, completes_congr h hcompletion]

/-- The code of the reason that is published, if one is. -/
def publishedCode (found : Except Refusal FailureClass) : Option ReasonCode :=
  (found.map (·.reason.code)).toOption

theorem publishedCode_eq_some {found : Except Refusal FailureClass} {code : ReasonCode} :
    publishedCode found = some code ↔
      ∃ failureClass, found = .ok failureClass ∧ failureClass.reason.code = code := by
  cases found <;> simp [publishedCode, Except.map, Except.toOption]

theorem reasonFromSourceError_code (code : ReasonCode) (operation message : String)
    (error : SourceError) : (reasonFromSourceError code operation message error).code = code := by
  unfold reasonFromSourceError
  split_ifs <;> rfl

/-- A branch that first reads something publishes its code when it could read it. -/
theorem publishedCode_bind {α β : Type} {read : Except Refusal α} {read' : Except Refusal β}
    {build : α → FailureClass} {build' : β → FailureClass} {code : ReasonCode}
    (hread : (read.toOption.map fun _ => code) = read'.toOption.map fun _ => code)
    (h : ∀ value, (build value).reason.code = code)
    (h' : ∀ value, (build' value).reason.code = code) :
    publishedCode (read >>= fun value => .ok (build value))
      = publishedCode (read' >>= fun value => .ok (build' value)) := by
  have hcode : ∀ {γ : Type} (x : Except Refusal γ) (f : γ → FailureClass),
      (∀ value, (f value).reason.code = code) →
      publishedCode (x >>= fun value => .ok (f value)) = x.toOption.map fun _ => code := by
    intro γ x f hf
    cases x with
    | error refusal => rfl
    | ok value => exact congrArg some (hf value)
  rw [hcode read build h, hcode read' build' h', hread]

theorem publishedCode_ok {first second : FailureClass} (code : ReasonCode)
    (hfirst : first.reason.code = code) (hsecond : second.reason.code = code) :
    publishedCode (.ok first) = publishedCode (.ok second) :=
  congrArg some (hfirst.trans hsecond.symm)

theorem publishedCode_error {first second : Refusal} :
    publishedCode (.error first) = publishedCode (.error second) :=
  rfl

theorem publishedCode_ite {applies : Prop} [Decidable applies]
    {first below second below' : Except Refusal FailureClass}
    (hentry : publishedCode first = publishedCode second)
    (hbelow : publishedCode below = publishedCode below') :
    publishedCode (if applies then first else below)
      = publishedCode (if applies then second else below') := by
  split
  · exact hentry
  · exact hbelow

theorem unsupportedComparisonMessage_read {first second : SourceError}
    (h : strip first.text = "" ↔ strip second.text = "") (code : ReasonCode) :
    (unsupportedComparisonMessage first).toOption.map (fun _ => code)
      = (unsupportedComparisonMessage second).toOption.map fun _ => code := by
  unfold unsupportedComparisonMessage
  by_cases hblank : strip first.text = ""
  · rw [if_pos hblank, if_pos (h.mp hblank)]
  · rw [if_neg hblank, if_neg (mt h.mpr hblank)]
    simp only [Except.toOption, Option.map_some]

theorem actionableMssqlErrorMessage_read {first second : SourceError} {context : String}
    (h : strip first.text = "" ↔ strip second.text = "") (code : ReasonCode) :
    (actionableMssqlErrorMessage first context).toOption.map (fun _ => code)
      = (actionableMssqlErrorMessage second context).toOption.map fun _ => code := by
  unfold actionableMssqlErrorMessage
  by_cases hblank : strip first.text = ""
  · rw [if_pos hblank, if_pos (h.mp hblank)]
  · rw [if_neg hblank, if_neg (mt h.mpr hblank)]
    simp only [Except.toOption, Option.map_some]

theorem requireClickhouseEndpointDirection_read {first second : Option PlanDirection}
    (h : first.isSome = second.isSome) (code : ReasonCode) :
    (requireClickhouseEndpointDirection first).toOption.map (fun _ => code)
      = (requireClickhouseEndpointDirection second).toOption.map fun _ => code := by
  cases first with
  | none =>
    cases second with
    | none => rfl
    | some direction => cases h
  | some direction =>
    cases second with
    | none => cases h
    | some direction' => rfl

/-- Errors of one class publish one code, with or without a text alike and with or
without a direction alike. -/
theorem publishedCode_congr {first second : SourceError} {firstIds secondIds : List Uuid}
    {firstDirection secondDirection : Option PlanDirection}
    (hclass : first.cause.refusal.error = second.cause.refusal.error)
    (hblank : strip first.text = "" ↔ strip second.text = "")
    (hdirection : firstDirection.isSome = secondDirection.isSome) :
    publishedCode (interruptionFailureClass first firstIds firstDirection)
      = publishedCode (interruptionFailureClass second secondIds secondDirection) := by
  unfold interruptionFailureClass
  rw [isAny_congr hclass]
  -- One entry after the other, each with its own code.
  refine publishedCode_ite (publishedCode_ok .lossyTransport rfl rfl) ?_
  refine publishedCode_ite (publishedCode_bind
    (unsupportedComparisonMessage_read hblank .unsupportedCapability)
    (fun _ => rfl) fun _ => rfl) ?_
  refine publishedCode_ite (publishedCode_ok .budgetExhausted rfl rfl) ?_
  refine publishedCode_ite (publishedCode_ok .budgetExhausted
    (reasonFromSourceError_code _ _ _ _) (reasonFromSourceError_code _ _ _ _)) ?_
  refine publishedCode_ite (publishedCode_ok .cancelled rfl rfl) ?_
  refine publishedCode_ite (publishedCode_ok .cancellationUnconfirmed rfl rfl) ?_
  refine publishedCode_ite (publishedCode_bind
    (requireClickhouseEndpointDirection_read hdirection .cancellationUnconfirmed)
    (fun _ => rfl) fun _ => rfl) ?_
  refine publishedCode_ite (publishedCode_ok .snapshotLost rfl rfl) ?_
  refine publishedCode_ite (publishedCode_ok .queryError
    (reasonFromSourceError_code _ _ _ _) (reasonFromSourceError_code _ _ _ _)) ?_
  refine publishedCode_ite (publishedCode_ok .unsupportedCapability rfl rfl) ?_
  refine publishedCode_ite (publishedCode_bind
    (actionableMssqlErrorMessage_read hblank .unsupportedCapability)
    (fun _ => rfl) fun _ => rfl) ?_
  refine publishedCode_ite (publishedCode_bind
    (requireClickhouseEndpointDirection_read hdirection .unsupportedCapability)
    (fun _ => rfl) fun _ => rfl) ?_
  refine publishedCode_ite (publishedCode_ok .unsupportedCapability rfl rfl) ?_
  refine publishedCode_ite (publishedCode_ok .protocolViolation rfl rfl) ?_
  refine publishedCode_ite (publishedCode_ok .queryError rfl rfl) ?_
  refine publishedCode_ite (publishedCode_ok .cancellationUnconfirmed rfl rfl) ?_
  exact publishedCode_ite (publishedCode_bind
    (requireClickhouseEndpointDirection_read hdirection .queryError)
    (fun _ => reasonFromSourceError_code _ _ _ _) fun _ => reasonFromSourceError_code _ _ _ _)
    publishedCode_error

/-! ## Class by class -/

/-- The ClickHouse classes whose published reason names the endpoint's direction. -/
def directedClasses : List ErrorClass :=
  [.clickHouseTransportError, .clickHouseConnectionError, .clickHouseQueryError,
   .clickHouseSourceAccountingError, .clickHouseCancellationUnconfirmedError,
   .unsupportedClickHouseProfileError]

/-- The two classifications have an entry of the same code: the completion of a
failed or expired ClickHouse query is not that of a cancellation, the class is one
that is published, and its text and direction are there when they are named. -/
structure ClassifiedAlike (raised : ErrorClass) (completion : Option ClickHouseQueryCompletion)
    (blank directed : Bool) : Prop where
  completion : raised = .clickHouseQueryError ∨ raised = .clickHouseAttemptDeadlineExceededError →
    completion ≠ some .cancelled ∧ completion ≠ some .unconfirmed
  published : raised ≠ .postgresCloseError ∧ raised ≠ .postgresConnectorError
  explained : raised = .unsupportedComparisonError ∨ raised = .unsupportedMssqlProfileError →
    blank = false
  directed : raised ∈ directedClasses → directed = true

instance (raised : ErrorClass) (completion : Option ClickHouseQueryCompletion)
    (blank directed : Bool) : Decidable (ClassifiedAlike raised completion blank directed) :=
  decidable_of_iff
    ((raised = .clickHouseQueryError ∨ raised = .clickHouseAttemptDeadlineExceededError →
        completion ≠ some .cancelled ∧ completion ≠ some .unconfirmed)
      ∧ (raised ≠ .postgresCloseError ∧ raised ≠ .postgresConnectorError)
      ∧ (raised = .unsupportedComparisonError ∨ raised = .unsupportedMssqlProfileError →
        blank = false)
      ∧ (raised ∈ directedClasses → directed = true))
    ⟨fun h => ⟨h.1, h.2.1, h.2.2.1, h.2.2.2⟩, fun h => ⟨h.1, h.2, h.3, h.4⟩⟩

/-- A cause that has nothing but a class and a completion. -/
def bareCause (raised : ErrorClass) (completion : Option ClickHouseQueryCompletion)
    (message : String) : Cause :=
  { refusal := { error := raised, message }, completion, keyMapping := none }

def noDetails : ErrorDetails where
  operation := ""
  sqlstate := none
  errorCategory := ""
  httpStatus := none
  errorCode := none
  errorName := none
  connectionAttempts := 0
  connectionQueryId := none
  queryId := 0
  sessionId := 0
  confirmationSessionId := 0
  confirmationValue := 0
  confirmationFailure := ""
  attemptId := 0
  triggerCause := ""
  cancellationCause := ""
  receivedResponseBytes := 0
  responseTruncated := false

def unresolvedCode (raised : ErrorClass) (completion : Option ClickHouseQueryCompletion) :
    Option ReasonCode :=
  (interruptionReasonCode (bareCause raised completion "")).toOption

def failureCode (raised : ErrorClass) (blank directed : Bool) : Option ReasonCode :=
  publishedCode (interruptionFailureClass
    { cause := bareCause raised none (if blank = true then "" else "-"), details := noDetails } []
    (if directed = true then some .reference else none))

def completions : List (Option ClickHouseQueryCompletion) :=
  [none, some .notDispatched, some .serverTerminal, some .cancelled, some .unconfirmed]

theorem mem_completions (completion : Option ClickHouseQueryCompletion) :
    completion ∈ completions := by
  cases completion with
  | none => decide
  | some completion => cases completion <;> decide

theorem bareCodes_agree_iff (raised : ErrorClass) :
    ∀ completion ∈ completions, ∀ blank directed,
      (unresolvedCode raised completion).isSome = true →
      (failureCode raised blank directed = unresolvedCode raised completion ↔
        ClassifiedAlike raised completion blank directed) := by
  cases raised <;> decide +kernel

/-- What `ClassifiedAlike` says of an exception and the endpoint's direction. -/
def SourceError.classifiedAlike (error : SourceError) (direction : Option PlanDirection) : Prop :=
  ClassifiedAlike error.cause.refusal.error error.cause.completion
    (decide (strip error.text = "")) direction.isSome

/-- An error publishes the code of the bare one of its class. -/
theorem publishedCode_eq_failureCode {error : SourceError} (ids : List Uuid)
    (direction : Option PlanDirection) {blank : Bool}
    (hblank : strip error.text = "" ↔ blank = true) :
    publishedCode (interruptionFailureClass error ids direction)
      = failureCode error.cause.refusal.error blank direction.isSome := by
  have hempty : strip "" = "" := by decide +kernel
  have hdash : ¬ strip "-" = "" := by decide +kernel
  have htext : strip error.text = "" ↔ strip (if blank = true then "" else "-") = "" := by
    cases blank with
    | false => simp [hblank, hdash]
    | true => simp [hblank, hempty]
  have hdirected : direction.isSome
      = (if direction.isSome = true then some PlanDirection.reference else none).isSome := by
    cases direction <;> rfl
  exact publishedCode_congr rfl htext hdirected

theorem codes_agree_iff {error : SourceError} {code : ReasonCode} (ids : List Uuid)
    (direction : Option PlanDirection) (hcode : interruptionReasonCode error.cause = .ok code) :
    publishedCode (interruptionFailureClass error ids direction) = some code ↔
      error.classifiedAlike direction := by
  have hbare : interruptionReasonCode
      (bareCause error.cause.refusal.error error.cause.completion "") = .ok code :=
    (interruptionReasonCode_congr rfl rfl).trans hcode
  have hunresolved :
      unresolvedCode error.cause.refusal.error error.cause.completion = some code := by
    rw [unresolvedCode, hbare]
    rfl
  rw [publishedCode_eq_failureCode ids direction decide_eq_true_iff.symm, ← hunresolved]
  exact bareCodes_agree_iff _ _ (mem_completions _) _ _ (by rw [hunresolved]; rfl)

/-! ## Interrupted runs -/

/-- The ranges that an interrupted run leaves open carry the reason of its cause. -/
theorem unresolved_reasons_of_interruption {inputs : ComparisonInputs Body}
    {sources : Sources budgets} {cause : Cause}
    {artifact : PartialComparisonArtifact inputs.recordBytes}
    (hrun : executeIntegerKeyComparison inputs sources = .interrupted cause artifact) :
    ∃ code, interruptionReasonCode cause = .ok code ∧
      ∀ item ∈ artifact.frontier.unresolved, item.reason = code := by
  obtain ⟨root, -, hreportable⟩ := lastProgress_reportable inputs sources
  have hbuilt : (partialComparisonArtifact inputs sources (lastProgress inputs sources) cause
      (comparisonRun inputs sources).world).result = .ok artifact := by
    unfold executeIntegerKeyComparison at hrun
    dsimp only at hrun
    split at hrun
    · simp at hrun
    · split at hrun
      · split at hrun
        · rename_i hresult
          simp only [ComparisonEnd.interrupted.injEq] at hrun
          obtain ⟨rfl, rfl⟩ := hrun
          exact hresult
        · simp at hrun
      · simp at hrun
  have hensures : Ensures (fun _ => True) (fun _ _ => True)
      (partialComparisonArtifact inputs sources (lastProgress inputs sources) cause)
      (comparisonRun inputs sources).world
      (fun artifact _ => ∃ code, interruptionReasonCode cause = .ok code ∧
        ∀ item ∈ artifact.frontier.unresolved, item.reason = code) :=
    ensures_partialComparisonArtifact (fun _ _ => trivial) (fun _ _ _ => trivial)
      (.inr fun _ => trivial) hreportable fun _ _ reason hreason hreports =>
        ⟨reason, hreason, hreports.segments.reasons_eq⟩
  exact hensures.of_result hbuilt

/-- With its cut and its contexts, an interruption is published with the class of
its cause. -/
theorem failureFromComparisonInterruption_reason {error : ComparisonInterruptedError recordBytes}
    {resources : List AttemptResource} (cut : Cut) (direction : Option PlanDirection)
    (hids : error.artifact.consistency.readContextIds = contextIds resources) (code : ReasonCode) :
    (∃ failure, failureFromComparisonInterruption error resources (some cut) direction
        = .ok failure ∧ failure.reason.code = code) ↔
      publishedCode (interruptionFailureClass error.cause
        error.artifact.consistency.readContextIds direction) = some code := by
  rw [publishedCode_eq_some]
  unfold failureFromComparisonInterruption
  simp only [refuseIf, hids, ne_eq, not_true_eq_false, if_false]
  cases interruptionFailureClass error.cause (contextIds resources) direction with
  | error refusal => simp [bind, Except.bind]
  | ok failureClass => simp [bind, Except.bind]

/-- Whatever exception interrupts a run, its open ranges and its published failure
have one reason code if and only if the two classifications are alike on it. -/
theorem interruption_reasons_agree_iff {inputs : ComparisonInputs Body} {sources : Sources budgets}
    {error : ComparisonInterruptedError inputs.recordBytes} (resources : List AttemptResource)
    (cut : Cut) (direction : Option PlanDirection)
    (hrun : executeIntegerKeyComparison inputs sources
      = .interrupted error.cause.cause error.artifact)
    (hids : error.artifact.consistency.readContextIds = contextIds resources) :
    ∃ code, interruptionReasonCode error.cause.cause = .ok code ∧
      (∀ item ∈ error.artifact.frontier.unresolved, item.reason = code) ∧
      ((∃ failure, failureFromComparisonInterruption error resources (some cut) direction
          = .ok failure ∧ failure.reason.code = code) ↔
        error.cause.classifiedAlike direction) := by
  obtain ⟨code, hcode, hunresolved⟩ := unresolved_reasons_of_interruption hrun
  refine ⟨code, hcode, hunresolved, ?_⟩
  rw [failureFromComparisonInterruption_reason cut direction hids, codes_agree_iff _ _ hcode]

/-- The reference's ClickHouse query is stopped at the deadline of the attempt, with
the given completion. -/
def expiringSources (completion : ClickHouseQueryCompletion) : Sources sampleBudgets :=
  { agreeingSources with
    fingerprints := fun _ _ _ =>
      { charges := []
        answer := .error (bareCause .clickHouseAttemptDeadlineExceededError (some completion)
          "deadline exceeded") } }

/-- The interrupted error of a run, if it was interrupted. -/
def raised? (sources : Sources sampleBudgets) :
    Option (ComparisonInterruptedError sampleInputs.recordBytes) :=
  (executeIntegerKeyComparison sampleInputs sources).interruption?.map fun found =>
    { cause := { cause := found.1, details := noDetails }, artifact := found.2 }

/-- The two contexts of the sample run. -/
def sampleResources : List AttemptResource :=
  [{ clickHouse := some .active, persisted := some 1 }, { clickHouse := none, persisted := some 2 }]

theorem exists_raised {sources : Sources sampleBudgets} {cause : Cause}
    (h : (raised? sources).map (fun error => (error.cause.cause,
      error.artifact.consistency.readContextIds, error.artifact.frontier.unresolved.isEmpty))
      = some (cause, [1, 2], false)) :
    ∃ error : ComparisonInterruptedError sampleInputs.recordBytes,
      executeIntegerKeyComparison sampleInputs sources
        = .interrupted error.cause.cause error.artifact ∧
      error.cause.cause = cause ∧
      error.artifact.consistency.readContextIds = contextIds sampleResources ∧
      error.artifact.frontier.unresolved ≠ [] := by
  obtain ⟨error, herror, hfacts⟩ := Option.map_eq_some_iff.mp h
  rw [Prod.mk.injEq, Prod.mk.injEq] at hfacts
  refine ⟨error, ?_, hfacts.1, hfacts.2.1, by simpa using hfacts.2.2⟩
  rw [raised?, Option.map_eq_some_iff] at herror
  obtain ⟨found, hfound, rfl⟩ := herror
  exact ComparisonEnd.interruption?_eq_some hfound

/-- The deadline error of `expiringSources`. -/
def deadlineCause (completion : ClickHouseQueryCompletion) : Cause :=
  bareCause .clickHouseAttemptDeadlineExceededError (some completion) "deadline exceeded"

/-- A query whose cancellation at the deadline was confirmed: the open range is
reported as cancelled, the published failure as an exhausted budget. -/
theorem cancelled_query_published_as_exhausted :
    ∃ error : ComparisonInterruptedError sampleInputs.recordBytes,
      executeIntegerKeyComparison sampleInputs (expiringSources .cancelled)
        = .interrupted error.cause.cause error.artifact ∧
      interruptionReasonCode error.cause.cause = .ok .cancelled ∧
      (∃ item ∈ error.artifact.frontier.unresolved, item.reason = .cancelled) ∧
      ∃ failure, failureFromComparisonInterruption error sampleResources (some ())
          (some .reference) = .ok failure ∧ failure.reason.code = .budgetExhausted := by
  have hraised : (raised? (expiringSources .cancelled)).map (fun error => (error.cause.cause,
      error.artifact.consistency.readContextIds, error.artifact.frontier.unresolved.isEmpty))
      = some (deadlineCause .cancelled, [1, 2], false) := by decide +kernel
  obtain ⟨error, hrun, hcause, hids, hopen⟩ := exists_raised hraised
  have hcode : interruptionReasonCode error.cause.cause = .ok .cancelled := by
    rw [hcause]
    decide +kernel
  obtain ⟨code, hfound, hreasons⟩ := unresolved_reasons_of_interruption hrun
  obtain rfl : ReasonCode.cancelled = code := by simpa [hcode] using hfound
  obtain ⟨item, hitem⟩ := List.exists_mem_of_ne_nil _ hopen
  have hpublished : publishedCode (interruptionFailureClass error.cause
      error.artifact.consistency.readContextIds (some .reference))
        = publishedCode (interruptionFailureClass
          { cause := deadlineCause .cancelled, details := noDetails } [] (some .reference)) :=
    publishedCode_congr (congrArg (·.refusal.error) hcause)
      (by rw [SourceError.text, hcause, SourceError.text]) rfl
  refine ⟨error, hrun, hcode, ⟨item, hitem, hreasons item hitem⟩, ?_⟩
  rw [failureFromComparisonInterruption_reason () (some .reference) hids, hpublished]
  decide +kernel

/-- A query that ended at the deadline by itself is published as it is reported. -/
theorem ended_query_published_alike :
    ∃ error : ComparisonInterruptedError sampleInputs.recordBytes,
      executeIntegerKeyComparison sampleInputs (expiringSources .serverTerminal)
        = .interrupted error.cause.cause error.artifact ∧
      ∃ code, interruptionReasonCode error.cause.cause = .ok code ∧
        ∃ failure, failureFromComparisonInterruption error sampleResources (some ())
          (some .reference) = .ok failure ∧ failure.reason.code = code := by
  have hraised : (raised? (expiringSources .serverTerminal)).map (fun error =>
      (error.cause.cause, error.artifact.consistency.readContextIds,
        error.artifact.frontier.unresolved.isEmpty))
      = some (deadlineCause .serverTerminal, [1, 2], false) := by decide +kernel
  obtain ⟨error, hrun, hcause, hids, -⟩ := exists_raised hraised
  obtain ⟨code, hcode, -, hagree⟩ :=
    interruption_reasons_agree_iff sampleResources () (some .reference) hrun hids
  refine ⟨error, hrun, code, hcode, hagree.mpr ?_⟩
  rw [SourceError.classifiedAlike, hcause, SourceError.text, hcause]
  decide +kernel

end ForensicData.Application
