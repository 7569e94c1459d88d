/-
ForensicData.ClickHouse.HttpResponseTheorems — no failed query is a success.

A success is reported only for a body read clean and whole, without a frame
opening (`modernBodyOutcome_success`); a body with an opening and no frame at
its end breaks the protocol (`modernBodyOutcome_opening`). The claim about
exception frames is `exception_frame_law`.
-/
import ForensicData.ClickHouse.BoundedBody
import ForensicData.ClickHouse.ExceptionFrame

namespace ForensicData.ClickHouse

open ForensicData.Canonical

variable {response : HttpResponse} {request : ClickHouseHttpRequest} {read : BoundedBodyRead}
  {outcome : ClickHouseHttpOutcome} {body tag : Bytes}

/-! ## Openings -/

theorem containsBytes_iff {needle text : Bytes} :
    containsBytes needle text = true ↔ needle <:+: text := by
  induction text with
  | nil => rw [containsBytes, List.isPrefixOf_iff_prefix, List.prefix_nil, List.infix_nil]
  | cons byte rest ih =>
    rw [containsBytes, Bool.or_eq_true, ih, List.isPrefixOf_iff_prefix, List.infix_cons_iff]

theorem hasExceptionFrameOpening_iff (htag : exceptionTagBytes response.exceptionTag = some tag) :
    hasExceptionFrameOpening body response.exceptionTag = true ↔ frameOpening tag <:+: body := by
  rw [hasExceptionFrameOpening, htag]
  exact containsBytes_iff

theorem clickhouseExceptionMessage_eq_some_iff {message : Bytes}
    (htag : exceptionTagBytes response.exceptionTag = some tag) :
    clickhouseExceptionMessage body response.exceptionTag = some message ↔
      (∃ data, body = data ++ exceptionFrame tag message) ∧ WellFormedFrame tag message := by
  rw [clickhouseExceptionMessage, htag]
  exact exceptionMessageOf_eq_some_iff

/-! ## Outcomes -/

/-- An outcome is made of what passes its checks. -/
theorem ClickHouseHttpOutcome.make_eq_ok {given : ClickHouseHttpOutcome} :
    ClickHouseHttpOutcome.make given = .ok outcome ↔
      (∀ status ∈ given.statusCode, 100 ≤ status ∧ status ≤ 599) ∧
        given.responseQueryId ≠ some "" ∧ given.errorName ≠ some "" ∧
        given.causeType ≠ some "" ∧ outcome = given := by
  unfold ClickHouseHttpOutcome.make
  simp only [bind_unit_eq_ok, refuseIf_eq_ok, Except.ok.injEq, Option.any_eq_true,
    Bool.or_eq_true, decide_eq_true_eq, Option.mem_def, eq_comm (a := outcome)]
  refine and_congr_left fun _ => ?_
  simp only [not_exists, not_and, not_or, Nat.not_lt]

theorem ClickHouseHttpOutcome.eq_of_make {given : ClickHouseHttpOutcome}
    (h : ClickHouseHttpOutcome.make given = .ok outcome) : outcome = given :=
  (ClickHouseHttpOutcome.make_eq_ok.mp h).2.2.2.2

theorem kind_protocolErrorOutcome {dispatchState : ClickHouseHttpDispatchState}
    {errorCode : Option ℕ} {receivedBytes : ℕ} {truncated : Bool} {causeType : Option String}
    (h : protocolErrorOutcome response dispatchState errorCode receivedBytes truncated causeType =
      .ok outcome) : outcome.kind = .protocolError := by
  rw [ClickHouseHttpOutcome.eq_of_make h]

/-- A body that makes a success was read clean and whole, holds no opening and is
the payload. -/
theorem modernBodyOutcome_success (h : modernBodyOutcome response request read = .ok outcome)
    (hsuccess : outcome.kind = .success) :
    read.terminalStatus = .clean ∧ announcesError response = false ∧
      (read.truncated = false →
        clickhouseExceptionMessage read.payload response.exceptionTag = none) ∧
      hasExceptionFrameOpening read.payload response.exceptionTag = false ∧
      read.payload.length ≤ request.maxResponseBytes ∧ outcome.payload = read.payload := by
  unfold modernBodyOutcome at h
  simp only at h
  generalize hfound : (if read.truncated = true then none
    else clickhouseExceptionMessage read.payload response.exceptionTag) = message at h
  split at h
  · rw [kind_protocolErrorOutcome h] at hsuccess
    cases hsuccess
  rename_i hclean
  split at h
  · rw [kind_protocolErrorOutcome h] at hsuccess
    cases hsuccess
  rename_i hopening
  split at h
  · rw [kind_protocolErrorOutcome h] at hsuccess
    cases hsuccess
  split at h
  · rw [ClickHouseHttpOutcome.eq_of_make h] at hsuccess
    cases hsuccess
  rename_i hmessage
  split at h
  · rw [kind_protocolErrorOutcome h] at hsuccess
    cases hsuccess
  rename_i hstatus
  split at h
  · rw [ClickHouseHttpOutcome.eq_of_make h] at hsuccess
    cases hsuccess
  rename_i hlimit
  rw [ClickHouseHttpOutcome.eq_of_make h]
  rw [not_or, Option.not_isSome_iff_eq_none, Option.not_isSome_iff_eq_none] at hmessage
  obtain ⟨hcode, rfl⟩ := hmessage
  refine ⟨?_, ?_, fun hwhole => ?_, by simpa using hopening, Nat.not_lt.mp hlimit, rfl⟩
  · by_contra hdirty
    exact hclean ⟨hdirty, by simp⟩
  · rw [announcesError, hcode, Bool.or_eq_false_iff]
    exact ⟨by simpa using hstatus, rfl⟩
  · rwa [hwhole, if_neg Bool.false_ne_true] at hfound

/-- A protocol error with a cause that is not empty. -/
def IsProtocolError (response : HttpResponse) (result : Except Refusal ClickHouseHttpOutcome) :
    Prop :=
  ∃ dispatchState errorCode receivedBytes truncated causeType, causeType ≠ some "" ∧
    result = protocolErrorOutcome response dispatchState errorCode receivedBytes truncated causeType

theorem IsProtocolError.kind {result : Except Refusal ClickHouseHttpOutcome}
    (h : IsProtocolError response result) (hresult : result = .ok outcome) :
    outcome.kind = .protocolError := by
  obtain ⟨_, _, _, _, _, -, rfl⟩ := h
  exact kind_protocolErrorOutcome hresult

theorem IsProtocolError.isOk {result : Except Refusal ClickHouseHttpOutcome}
    (h : IsProtocolError response result) (hstatus : 100 ≤ response.status ∧ response.status ≤ 599)
    (hid : response.queryId ≠ some "") : ∃ outcome, result = .ok outcome := by
  obtain ⟨_, _, _, _, _, hcause, rfl⟩ := h
  refine ⟨_, ClickHouseHttpOutcome.make_eq_ok.mpr ⟨?_, hid, by simp, hcause, rfl⟩⟩
  intro status hmem
  rw [Option.mem_def, Option.some.injEq] at hmem
  rwa [← hmem]

/-- The header checks break the protocol or the body decides. -/
theorem readModernHttpResponse_cases (response : HttpResponse) (request : ClickHouseHttpRequest) :
    IsProtocolError response (readModernHttpResponse response request) ∨
      readModernHttpResponse response request = modernBodyOutcome response request
        (readBoundedBody response (captureLimit response request)) := by
  unfold readModernHttpResponse
  simp only
  split
  · exact .inl ⟨_, _, _, _, _, by simp, rfl⟩
  split
  · exact .inl ⟨_, _, _, _, _, by simp, rfl⟩
  split
  · exact .inl ⟨_, _, _, _, _, by simp, rfl⟩
  split
  · exact .inl ⟨_, _, _, _, _, by simp, rfl⟩
  · exact .inr rfl

/-- A body with an opening and without a frame at its end breaks the protocol. -/
theorem modernBodyOutcome_opening
    (hmessage : clickhouseExceptionMessage read.payload response.exceptionTag = none)
    (hopening : hasExceptionFrameOpening read.payload response.exceptionTag = true)
    (hcause : read.causeType ≠ some "") :
    IsProtocolError response (modernBodyOutcome response request read) := by
  have hnone : (if read.truncated = true then none
      else clickhouseExceptionMessage read.payload response.exceptionTag) = none := by
    rw [hmessage, ite_self]
  unfold modernBodyOutcome
  simp only [hnone, hopening]
  split
  · exact ⟨_, _, _, _, _, hcause, rfl⟩
  · exact ⟨_, _, _, _, _, by simp, rfl⟩

/-! ## Exception frames -/

/-- A truncated body is longer than the request admits, unless an error was
announced. -/
theorem truncated_of_success (htruncated :
      (readBoundedBody response (captureLimit response request)).truncated = true)
    (hclean : (readBoundedBody response (captureLimit response request)).terminalStatus = .clean)
    (hannounces : announcesError response = false) :
    request.maxResponseBytes <
      (readBoundedBody response (captureLimit response request)).payload.length := by
  have hlimit : captureLimit response request <
      (readBoundedBody response (captureLimit response request)).payload.length :=
    limit_lt_of_truncated [] 0 rfl hclean htruncated
  have hcapture : captureLimit response request =
      request.maxResponseBytes + exceptionFrameMaxBytes := by
    rw [captureLimit, hannounces]
    rfl
  omega

/-- A success is a body that was read whole. -/
theorem success_whole (h : readModernHttpResponse response request = .ok outcome)
    (hsuccess : outcome.kind = .success) :
    let read := readBoundedBody response (captureLimit response request)
    read.terminalStatus = .clean ∧ read.truncated = false ∧ outcome.payload = read.payload ∧
      clickhouseExceptionMessage read.payload response.exceptionTag = none ∧
      hasExceptionFrameOpening read.payload response.exceptionTag = false := by
  rcases readModernHttpResponse_cases response request with hbroken | hbody
  · rw [hbroken.kind h] at hsuccess
    cases hsuccess
  · rw [hbody] at h
    obtain ⟨hclean, hannounces, hmessage, hopening, hlimit, hpayload⟩ :=
      modernBodyOutcome_success h hsuccess
    have hwhole : (readBoundedBody response (captureLimit response request)).truncated = false := by
      by_contra htruncated
      have hlong := truncated_of_success ((Bool.not_eq_false _).mp htruncated) hclean hannounces
      omega
    exact ⟨hclean, hwhole, hpayload, hmessage hwhole, hopening⟩

/-- A served body that makes a success was received whole. -/
theorem success_payload (hserves : Serves response body)
    (h : readModernHttpResponse response request = .ok outcome)
    (hsuccess : outcome.kind = .success) : outcome.payload = body := by
  obtain ⟨hclean, hwhole, hpayload, -, -⟩ := success_whole h hsuccess
  cases readsBody hserves (captureLimit response request) with
  | whole _ hbody => rw [hpayload, hbody]
  | cut _ _ htruncated =>
    rw [hwhole] at htruncated
    cases htruncated
  | broken hbroken => exact absurd hclean hbroken

/-- A response whose received body has an opening and does not end with a frame
breaks the protocol. -/
theorem isProtocolError_of_opening (htag : exceptionTagBytes response.exceptionTag = some tag)
    (hopening : frameOpening tag <:+:
      (readBoundedBody response (captureLimit response request)).payload)
    (hframe : ¬ ∃ data message, WellFormedFrame tag message ∧
      (readBoundedBody response (captureLimit response request)).payload =
        data ++ exceptionFrame tag message) :
    IsProtocolError response (readModernHttpResponse response request) := by
  rcases readModernHttpResponse_cases response request with hbroken | hbody
  · exact hbroken
  · rw [hbody]
    refine modernBodyOutcome_opening ?_ ((hasExceptionFrameOpening_iff htag).mpr hopening)
      (causeType_readBoundedBodyFrom [] 0)
    refine Option.eq_none_iff_forall_ne_some.mpr fun message hmessage => hframe ?_
    obtain ⟨⟨data, hdata⟩, hmessage⟩ := (clickhouseExceptionMessage_eq_some_iff htag).mp hmessage
    exact ⟨data, message, hmessage, hdata⟩

/-- Let a response with a valid tag serve a body. A body that ends with a frame
is no success and yields the message of its frame; a success has the body as its
payload, which holds no opening; a received body with an opening and no frame at
its end is a protocol error; and the bounded reader keeps the first bytes of a
framed body, one more than the limit at most. -/
theorem exception_frame_law (response : HttpResponse) (request : ClickHouseHttpRequest)
    (body tag : Bytes) (htag : exceptionTagBytes response.exceptionTag = some tag)
    (hserves : Serves response body) :
    (∀ data message, WellFormedFrame tag message → body = data ++ exceptionFrame tag message →
      clickhouseExceptionMessage body response.exceptionTag = some message ∧
      ∀ outcome, readModernHttpResponse response request = .ok outcome →
        outcome.kind ≠ .success) ∧
    (∀ outcome, readModernHttpResponse response request = .ok outcome →
      outcome.kind = .success → outcome.payload = body ∧ ¬ frameOpening tag <:+: body) ∧
    (∀ received, (readBoundedBody response (captureLimit response request)).payload = received →
      frameOpening tag <:+: received →
      (¬ ∃ data message, WellFormedFrame tag message ∧
        received = data ++ exceptionFrame tag message) →
      (∀ outcome, readModernHttpResponse response request = .ok outcome →
        outcome.kind = .protocolError) ∧
      (100 ≤ response.status ∧ response.status ≤ 599 → response.queryId ≠ some "" →
        ∃ outcome, readModernHttpResponse response request = .ok outcome)) ∧
    (ServesFramed response body → ∀ limit,
      (readBoundedBody response limit).payload = body.take (limit + 1) ∧
      (readBoundedBody response limit).payload.length ≤ limit + 1 ∧
      ((readBoundedBody response limit).truncated = true ↔ limit < body.length)) := by
  refine ⟨?frame, ?success, ?opening, ?bounded⟩
  case frame =>
    intro data message hframe hbody
    have hmessage : clickhouseExceptionMessage body response.exceptionTag = some message :=
      (clickhouseExceptionMessage_eq_some_iff htag).mpr ⟨⟨data, hbody⟩, hframe⟩
    refine ⟨hmessage, fun outcome h hsuccess => ?_⟩
    obtain ⟨-, -, hpayload, hnone, -⟩ := success_whole h hsuccess
    rw [← hpayload, success_payload hserves h hsuccess, hmessage] at hnone
    cases hnone
  case success =>
    intro outcome h hsuccess
    have hpayload := success_payload hserves h hsuccess
    obtain ⟨-, -, hread, -, hopening⟩ := success_whole h hsuccess
    rw [← hread, hpayload, Bool.eq_false_iff, ne_eq, hasExceptionFrameOpening_iff htag] at hopening
    exact ⟨hpayload, hopening⟩
  case opening =>
    intro received hreceived hopening hframe
    subst hreceived
    have hbroken := isProtocolError_of_opening htag hopening hframe
    exact ⟨fun outcome => hbroken.kind, hbroken.isOk⟩
  case bounded =>
    intro hframed limit
    obtain ⟨hpayload, htruncated, -⟩ := readBoundedBody_framed hframed
    exact ⟨hpayload, (readsBody hserves limit).length_le, htruncated⟩

/-- A query that fails after one row: its frame is appended to the row. -/
theorem exception_frame_law_failed :
    let response := HttpResponse.sending
      { status := 200, queryId := some "q", exceptionCode := none
        exceptionTag := some "0123456789abcdef", contentEncoding := none
        read1 := fun _ _ => .chunk [], eofIsFramed := true }
      ([49, 10] ++ exceptionFrame (asciiBytes "0123456789abcdef".toList) [69, 10])
    let request : ClickHouseHttpRequest :=
      { queryId := "q", maxResponseBytes := 4096, maxErrorResponseBytes := 4096
        queryId_ne := by decide, response_pos := by decide, error_pos := by decide }
    ∀ outcome, readModernHttpResponse response request = .ok outcome → outcome.kind ≠ .success := by
  intro response request outcome
  have htag : exceptionTagBytes response.exceptionTag =
      some (asciiBytes "0123456789abcdef".toList) := by decide
  exact ((exception_frame_law response request _ _ htag
    (servesFramed_sending _ _).toServes).1 [49, 10] [69, 10]
      ⟨by decide, by decide⟩ rfl).2 outcome

end ForensicData.ClickHouse
