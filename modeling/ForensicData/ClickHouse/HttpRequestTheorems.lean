/-
ForensicData.ClickHouse.HttpRequestTheorems — what a built request carries.

A request that is built keeps within the bounds of its transport, carries the
deadlines it was given, and its URL reads back as the entries it was made of:
the database, the identity of the query and the settings of the protocol are in
it once, whatever a caller passes. A request that is not built is refused with a
`ValueError`, or by the binding library.
-/
import ForensicData.ClickHouse.HttpRequest
import Mathlib.Data.String.Basic

namespace ForensicData.ClickHouse

open ForensicData.Application (uuidText)
open ForensicData.Canonical (Bytes utf8Encode)
open ForensicData.Lib
open ForensicData.Result (Uuid)

/-! ## Refusals -/

/-- Whatever is refused is refused with a `ValueError`. -/
def OnlyValueErrors {α : Type} (outcome : Except Refusal α) : Prop :=
  ∀ refusal, outcome = .error refusal → refusal.error = .valueError

section

variable {α β : Type}

theorem OnlyValueErrors.ok (a : α) : OnlyValueErrors (.ok a) := fun _ h => by cases h

theorem OnlyValueErrors.error (message : String) :
    OnlyValueErrors (.error (httpValue message) : Except Refusal α) := fun _ h => by
  cases h
  rfl

theorem OnlyValueErrors.bind {x : Except Refusal α} {f : α → Except Refusal β}
    (hx : OnlyValueErrors x) (hf : ∀ a, OnlyValueErrors (f a)) : OnlyValueErrors (x >>= f) := by
  intro refusal h
  rcases bind_eq_error.mp h with h | ⟨a, _, h⟩
  · exact hx refusal h
  · exact hf a refusal h

theorem OnlyValueErrors.refuseIf {condition : Prop} [Decidable condition] (message : String) :
    OnlyValueErrors (refuseIf condition (httpValue message)) := by
  intro refusal h
  unfold ForensicData.refuseIf at h
  split at h
  · cases h
    rfl
  · cases h

end

theorem onlyValueErrors_textScalar (value label : String) :
    OnlyValueErrors (validateClickhouseTextScalar value label) :=
  .bind (.refuseIf _) fun _ => .refuseIf _

theorem onlyValueErrors_parameterBytes (label : String)
    (parameters : List (String × ClickHouseParameter)) :
    OnlyValueErrors (parameterBytes label parameters) := by
  induction parameters with
  | nil => exact .ok 0
  | cons entry rest ih =>
    refine .bind (.refuseIf _) fun _ => .bind ?_ fun _ => .bind ih fun _ => .ok _
    cases entry.2 with
    | integer value => exact .ok _
    | text value => exact .bind (onlyValueErrors_textScalar _ _) fun _ => .ok _

theorem onlyValueErrors_requestInputs (limits : ClickHouseTransportLimits) (query : String)
    (parameters querySettings : List (String × ClickHouseParameter)) :
    OnlyValueErrors (requireClickhouseRequestInputs limits query parameters querySettings) :=
  .bind (onlyValueErrors_parameterBytes _ _) fun _ =>
    .bind (onlyValueErrors_parameterBytes _ _) fun _ => .refuseIf _

theorem onlyValueErrors_protocolSettings (protocol : ClickHouseTransportProtocol)
    (querySettings : List (String × ClickHouseParameter)) :
    OnlyValueErrors (requireProtocolQuerySettings protocol querySettings) :=
  .bind (.refuseIf _) fun _ => .bind (.refuseIf _) fun _ => .refuseIf _

theorem onlyValueErrors_effectiveSettings (querySettings : List (String × ClickHouseParameter))
    (statementTimeoutMilliseconds remainingNanoseconds : ℕ) :
    OnlyValueErrors (effectiveClickhouseQuerySettings querySettings statementTimeoutMilliseconds
      remainingNanoseconds) := by
  unfold effectiveClickhouseQuerySettings
  cases querySettings.lookup "max_execution_time" with
  | none => exact .ok _
  | some configured =>
    cases configured with
    | integer value => exact .bind (.refuseIf _) fun _ => .ok _
    | text value => exact .error _

theorem onlyValueErrors_addSettings (settings : List (String × ClickHouseParameter)) :
    ∀ entries, OnlyValueErrors (addSettings entries settings) := by
  induction settings with
  | nil => exact fun entries => .ok entries
  | cons entry rest ih =>
    intro entries
    refine .bind (.refuseIf _) fun _ => .bind (.refuseIf _) fun _ => .bind ?_ fun _ => ih _
    cases entry.2 with
    | integer value => exact .ok _
    | text value => exact .bind (onlyValueErrors_textScalar _ _) fun _ => .ok _

theorem onlyValueErrors_addBound (parameters : List (Option String × Option String)) :
    ∀ entries, OnlyValueErrors (addBoundParameters entries parameters) := by
  induction parameters with
  | nil => exact fun entries => .ok entries
  | cons parameter rest ih =>
    intro entries
    obtain ⟨name, value⟩ := parameter
    cases name with
    | none => exact .error _
    | some name =>
      cases value with
      | none => exact .bind (.refuseIf _) fun _ => .error _
      | some value => exact .bind (.refuseIf _) fun _ => .bind (.refuseIf _) fun _ => ih _

theorem onlyValueErrors_headers (settings : ClickHouseConnectionSettings) :
    OnlyValueErrors (clickhouseHttpHeaders settings) :=
  .bind (.refuseIf _) fun _ => .bind (.refuseIf _) fun _ => .bind (.refuseIf _) fun _ =>
    .bind (.refuseIf _) fun _ => .ok _

theorem onlyValueErrors_headerBytes (headers : List (String × String)) :
    OnlyValueErrors (headerBytes headers) := by
  induction headers with
  | nil => exact .ok 0
  | cons header rest ih =>
    refine .bind ?_ fun _ => .bind ih fun _ => .ok _
    unfold latin1Length
    split
    · exact .ok _
    · exact .error _

section

variable (endpoint : ClickHouseEndpoint) (arguments : RequestArguments)

theorem onlyValueErrors_boundRequest (bound : BoundQuery) (boundQuery : String) (now : ℕ) :
    OnlyValueErrors (endpoint.boundHttpRequest arguments bound boundQuery now) := by
  refine .bind (.refuseIf _) fun _ => .bind (.refuseIf _) fun _ => .bind (.refuseIf _) fun _ =>
    .bind ?_ fun _ => .bind (onlyValueErrors_headers _) fun _ =>
      .bind (onlyValueErrors_headerBytes _) fun _ => .bind (.refuseIf _) fun _ => ?_
  · exact .bind (onlyValueErrors_effectiveSettings _ _ _) fun _ =>
      .bind (onlyValueErrors_addSettings _ _) fun _ => onlyValueErrors_addBound _ _
  · unfold ClickHouseEndpoint.wireRequest
    split
    · split
      · exact .ok _
      · exact .error _
    · exact .error _

theorem requested_error {α : Type} {outcome : Except Refusal α} {error : RequestError}
    (honly : OnlyValueErrors outcome) (h : requested outcome = .error error) :
    ∃ refusal, error = .refusal refusal ∧ refusal.error = .valueError := by
  cases outcome with
  | ok a => cases h
  | error refusal =>
    cases h
    exact ⟨refusal, rfl, honly refusal rfl⟩

/-- A request that is refused is refused by the binding library or with a
`ValueError`. -/
theorem clickhouseHttpRequest_error {now : ℕ} {error : RequestError}
    (h : endpoint.clickhouseHttpRequest arguments now = .error error) :
    (∃ message, error = .programming message) ∨
      ∃ refusal, error = .refusal refusal ∧ refusal.error = .valueError := by
  unfold ClickHouseEndpoint.clickhouseHttpRequest at h
  rcases bind_eq_error.mp h with h | ⟨_, _, h⟩
  · exact .inr (requested_error (.refuseIf _) h)
  rcases bind_eq_error.mp h with h | ⟨_, _, h⟩
  · exact .inr (requested_error (onlyValueErrors_requestInputs _ _ _ _) h)
  rcases bind_eq_error.mp h with h | ⟨_, _, h⟩
  · exact .inr (requested_error (onlyValueErrors_protocolSettings _ _) h)
  rcases bind_eq_error.mp h with h | ⟨bound, _, h⟩
  · cases hbind : endpoint.bindQuery arguments.query arguments.parameters with
    | ok bound =>
      rw [hbind] at h
      cases h
    | error message =>
      rw [hbind] at h
      cases h
      exact .inl ⟨message, rfl⟩
  · cases hquery : bound.query with
    | none =>
      rw [hquery] at h
      cases h
      exact .inr ⟨_, rfl, rfl⟩
    | some boundQuery =>
      rw [hquery] at h
      exact .inr (requested_error (onlyValueErrors_boundRequest endpoint arguments _ _ _) h)

end

/-! ## The entries of the URL -/

def entryNames (entries : List (String × String)) : List String := entries.map Prod.fst

theorem hasName_iff {entries : List (String × String)} {name : String} :
    hasName entries name = true ↔ name ∈ entryNames entries := by
  simp [hasName, entryNames]

theorem nodup_snoc {entries : List (String × String)} {entry : String × String}
    (h : (entryNames entries).Nodup) (hnew : hasName entries entry.1 ≠ true) :
    (entryNames (entries ++ [entry])).Nodup := by
  have hnotMem : entry.1 ∉ entryNames entries := fun hmem => hnew (hasName_iff.mpr hmem)
  simp only [entryNames, List.map_append, List.map_cons, List.map_nil]
  exact List.nodup_append.mpr ⟨h, by simp, by
    intro name hname other hother
    simp only [List.mem_singleton] at hother
    rintro rfl
    exact hnotMem (hother ▸ hname)⟩

/-- The text of a setting. -/
def parameterText : ClickHouseParameter → String
  | .integer value => toString value
  | .text value => value

theorem clickhouseParameterText_eq_ok {name text : String} {value : ClickHouseParameter}
    (h : clickhouseParameterText name value = .ok text) : text = parameterText value := by
  cases value with
  | integer value =>
    cases h
    rfl
  | text value =>
    obtain ⟨_, _, h⟩ := bind_eq_ok.mp h
    cases h
    rfl

/-- The settings are added in their order, under names that were not there. -/
theorem addSettings_eq_ok {settings : List (String × ClickHouseParameter)} :
    ∀ {entries result : List (String × String)}, addSettings entries settings = .ok result →
      (entryNames entries).Nodup →
      result = entries ++ settings.map (fun setting => (setting.1, parameterText setting.2)) ∧
        (entryNames result).Nodup := by
  induction settings with
  | nil =>
    intro entries result h hnodup
    cases h
    simpa using hnodup
  | cons setting rest ih =>
    intro entries result h hnodup
    obtain ⟨_, _, h⟩ := bind_eq_ok.mp h
    obtain ⟨_, hfresh, h⟩ := bind_eq_ok.mp h
    obtain ⟨text, htext, h⟩ := bind_eq_ok.mp h
    rw [refuseIf_eq_ok, not_or] at hfresh
    obtain ⟨hresult, hall⟩ := ih h (nodup_snoc hnodup hfresh.1)
    rw [clickhouseParameterText_eq_ok htext] at hresult
    refine ⟨?_, hall⟩
    simpa using hresult

/-- So are the bound parameters, each a text under the name of a parameter. -/
theorem addBoundParameters_eq_ok {parameters : List (Option String × Option String)} :
    ∀ {entries result : List (String × String)},
      addBoundParameters entries parameters = .ok result → (entryNames entries).Nodup →
      ∃ bound : List (String × String),
        parameters = bound.map (fun entry => (some entry.1, some entry.2)) ∧
          result = entries ++ bound ∧ (entryNames result).Nodup := by
  induction parameters with
  | nil =>
    intro entries result h hnodup
    cases h
    exact ⟨[], rfl, (List.append_nil _).symm, hnodup⟩
  | cons parameter rest ih =>
    intro entries result h hnodup
    obtain ⟨name, value⟩ := parameter
    cases name with
    | none => cases h
    | some name =>
      cases value with
      | none =>
        obtain ⟨_, _, h⟩ := bind_eq_ok.mp h
        cases h
      | some value =>
        obtain ⟨_, _, h⟩ := bind_eq_ok.mp h
        obtain ⟨_, hfresh, h⟩ := bind_eq_ok.mp h
        rw [refuseIf_eq_ok] at hfresh
        obtain ⟨bound, hrest, hresult, hall⟩ := ih h (nodup_snoc hnodup hfresh)
        refine ⟨(name, value) :: bound, ?_, ?_, hall⟩
        · simp [hrest]
        · simpa using hresult

theorem nodup_fixedEntries (database queryId : String) (protocol : ClickHouseTransportProtocol) :
    (entryNames ([("database", database), ("query_id", queryId)]
      ++ protocol.urlParameters)).Nodup := by
  cases protocol <;> simp [entryNames, ClickHouseTransportProtocol.urlParameters]

theorem mem_setEntry {α : Type} {name : String} {value : α} {entries : List (String × α)}
    {entry : String × α} (h : entry ∈ setEntry name value entries) :
    entry = (name, value) ∨ entry ∈ entries := by
  induction entries with
  | nil => simpa [setEntry] using h
  | cons first rest ih =>
    unfold setEntry at h
    split at h
    · rcases List.mem_cons.mp h with h | h
      · exact .inl h
      · exact .inr (List.mem_cons_of_mem _ h)
    · rcases List.mem_cons.mp h with h | h
      · exact .inr (h ▸ List.mem_cons_self)
      · rcases ih h with h | h
        · exact .inl h
        · exact .inr (List.mem_cons_of_mem _ h)

theorem setEntry_mem {α : Type} (name : String) (value : α) (entries : List (String × α)) :
    (name, value) ∈ setEntry name value entries := by
  induction entries with
  | nil => simp [setEntry]
  | cons first rest ih =>
    unfold setEntry
    split
    · exact List.mem_cons_self
    · exact List.mem_cons_of_mem _ ih

/-- The settings of a query bound its execution by the time that remains and by
the statement timeout; the others are the caller's. -/
theorem effectiveSettings_eq_ok {querySettings effective : List (String × ClickHouseParameter)}
    {statementTimeoutMilliseconds remainingNanoseconds : ℕ}
    (h : effectiveClickhouseQuerySettings querySettings statementTimeoutMilliseconds
      remainingNanoseconds = .ok effective) :
    ∃ seconds : ℕ, ("max_execution_time", ClickHouseParameter.integer seconds) ∈ effective ∧
      seconds ≤ ceilingSeconds remainingNanoseconds ∧
      seconds ≤ (statementTimeoutMilliseconds + 999) / 1000 + 1 ∧
      ∀ setting ∈ effective, setting.1 = "max_execution_time" ∨ setting ∈ querySettings := by
  have hothers (value : ClickHouseParameter) :
      ∀ setting ∈ setEntry "max_execution_time" value querySettings,
        setting.1 = "max_execution_time" ∨ setting ∈ querySettings := fun setting hsetting =>
    (mem_setEntry hsetting).imp_left fun heq => by rw [heq]
  unfold effectiveClickhouseQuerySettings at h
  cases hconfigured : querySettings.lookup "max_execution_time" with
  | none =>
    rw [hconfigured] at h
    cases h
    exact ⟨_, setEntry_mem _ _ _, Nat.min_le_left _ _, Nat.min_le_right _ _, hothers _⟩
  | some configured =>
    rw [hconfigured] at h
    cases configured with
    | text value => cases h
    | integer value =>
      obtain ⟨_, _, h⟩ := bind_eq_ok.mp h
      cases h
      refine ⟨_, setEntry_mem _ _ _, ?_, ?_, hothers _⟩
      · exact (Nat.min_le_left _ _).trans (Nat.min_le_left _ _)
      · exact (Nat.min_le_left _ _).trans (Nat.min_le_right _ _)

/-! ## The request -/

/-- What a built request carries. -/
structure Carries (endpoint : ClickHouseEndpoint) (arguments : RequestArguments)
    (request : ClickHouseWireRequest) : Prop where
  queryId : request.queryId = uuidText arguments.queryId
  protocol : request.protocol = endpoint.protocol
  dispatchDeadline : request.dispatchDeadlineNanoseconds = arguments.dispatchDeadlineNanoseconds
  ioDeadline : request.ioDeadlineNanoseconds = arguments.ioDeadlineNanoseconds
  maxResponseBytes : request.maxResponseBytes = arguments.maxResponseBytes
  responseFits : arguments.maxResponseBytes + exceptionFrameMaxBytes + httpIpcOverheadBytes
    ≤ endpoint.limits.maxIpcMessageBytes
  bodyFits : request.body.length ≤ endpoint.limits.maxQueryBytes
  messageFits : ∃ fromHeaders, headerBytes request.headers = .ok fromHeaders ∧
    request.url.utf8ByteSize + request.body.length + fromHeaders + httpIpcOverheadBytes
      ≤ endpoint.limits.maxIpcMessageBytes

theorem wireRequest_eq_ok {endpoint : ClickHouseEndpoint} {arguments : RequestArguments}
    {url : String} {headers : List (String × String)} {body : Bytes}
    {request : ClickHouseWireRequest}
    (h : endpoint.wireRequest arguments url headers body = .ok request) :
    request.queryId = uuidText arguments.queryId ∧ request.protocol = endpoint.protocol ∧
      request.dispatchDeadlineNanoseconds = arguments.dispatchDeadlineNanoseconds ∧
      request.ioDeadlineNanoseconds = arguments.ioDeadlineNanoseconds ∧
      request.maxResponseBytes = arguments.maxResponseBytes ∧ request.url = url ∧
      request.headers = headers ∧ request.body = body := by
  unfold ClickHouseEndpoint.wireRequest at h
  split at h
  · split at h
    · have hrequest := Except.ok.inj h
      subst hrequest
      exact ⟨rfl, rfl, rfl, rfl, rfl, rfl, rfl, rfl⟩
    · cases h
  · cases h

/-- The URL of a built request is the base, a question mark and the form of its
entries. -/
structure HasUrl (endpoint : ClickHouseEndpoint) (arguments : RequestArguments) (bound : BoundQuery)
    (now : ℕ) (request : ClickHouseWireRequest) : Prop where
  url : ∃ entries, endpoint.urlEntries arguments bound now = .ok entries ∧
    request.url = s!"{clickhouseBaseUrl endpoint.settings}?{urlencodeSorted entries}"

theorem boundHttpRequest_eq_ok {endpoint : ClickHouseEndpoint} {arguments : RequestArguments}
    {bound : BoundQuery} {boundQuery : String} {now : ℕ} {request : ClickHouseWireRequest}
    (h : endpoint.boundHttpRequest arguments bound boundQuery now = .ok request) :
    Carries endpoint arguments request ∧ HasUrl endpoint arguments bound now request := by
  obtain ⟨_, hbody, h⟩ := bind_eq_ok.mp h
  obtain ⟨_, _, h⟩ := bind_eq_ok.mp h
  obtain ⟨_, hresponse, h⟩ := bind_eq_ok.mp h
  obtain ⟨entries, hentries, h⟩ := bind_eq_ok.mp h
  obtain ⟨headers, _, h⟩ := bind_eq_ok.mp h
  obtain ⟨fromHeaders, hheaders, h⟩ := bind_eq_ok.mp h
  obtain ⟨_, hmessage, h⟩ := bind_eq_ok.mp h
  rw [refuseIf_eq_ok] at hbody hresponse hmessage
  obtain ⟨hqueryId, hprotocol, hdispatch, hio, hmax, hurl, hrequestHeaders, hrequestBody⟩ :=
    wireRequest_eq_ok h
  refine ⟨⟨hqueryId, hprotocol, hdispatch, hio, hmax, Nat.le_of_not_lt hresponse, ?_, ?_⟩,
    ⟨entries, hentries, hurl⟩⟩
  · rw [hrequestBody]
    exact Nat.le_of_not_lt hbody
  · refine ⟨fromHeaders, hrequestHeaders ▸ hheaders, ?_⟩
    rw [hurl, hrequestBody]
    exact Nat.le_of_not_lt hmessage

theorem requested_eq_ok {α : Type} {outcome : Except Refusal α} {a : α} :
    requested outcome = .ok a ↔ outcome = .ok a := mapError_eq_ok

theorem clickhouseHttpRequest_eq_ok {endpoint : ClickHouseEndpoint}
    {arguments : RequestArguments} {now : ℕ} {request : ClickHouseWireRequest}
    (h : endpoint.clickhouseHttpRequest arguments now = .ok request) :
    Carries endpoint arguments request ∧
      ∃ bound, endpoint.bindQuery arguments.query arguments.parameters = .ok bound ∧
        HasUrl endpoint arguments bound now request := by
  unfold ClickHouseEndpoint.clickhouseHttpRequest at h
  obtain ⟨_, _, h⟩ := bind_eq_ok.mp h
  obtain ⟨_, _, h⟩ := bind_eq_ok.mp h
  obtain ⟨_, _, h⟩ := bind_eq_ok.mp h
  obtain ⟨bound, hbound, h⟩ := bind_eq_ok.mp h
  rw [mapError_eq_ok] at hbound
  cases hquery : bound.query with
  | none =>
    rw [hquery] at h
    cases h
  | some boundQuery =>
    rw [hquery] at h
    obtain ⟨hcarries, hurl⟩ := boundHttpRequest_eq_ok (requested_eq_ok.mp h)
    exact ⟨hcarries, bound, hbound, hurl⟩

/-! ## The URL is read back -/

theorem textBytes_eq_utf8Encode (text : String) : textBytes text = utf8Encode text := by
  rw [textBytes, utf8Encode, ← String.utf8Encode_toList, List.utf8Encode]
  exact List.toList_data_toByteArray.symm

/-- The parameters a server reads from a URL. -/
def serverParameters (url : String) : Option (List (Bytes × Bytes)) :=
  decodeForm ((url.toList.dropWhile (· ≠ '?')).drop 1)

theorem questionMark_not_mem_host (settings : ClickHouseConnectionSettings) :
    '?' ∉ settings.host.toList := by
  intro hmem
  have hplain := List.all_eq_true.mp settings.host_plain '?' hmem
  revert hplain
  decide

theorem questionMark_not_mem_port (port : ℕ) : '?' ∉ (toString port).toList := by
  intro hmem
  rw [Nat.toString_eq_repr, Nat.repr, String.toList_ofList] at hmem
  have hdigit := Nat.isDigit_of_mem_toDigits (by decide) (by decide) hmem
  revert hdigit
  decide

theorem questionMark_not_mem_base (settings : ClickHouseConnectionSettings) :
    '?' ∉ (clickhouseBaseUrl settings).toList := by
  have hhost := questionMark_not_mem_host settings
  have hport := questionMark_not_mem_port settings.port
  unfold clickhouseBaseUrl
  dsimp only
  simp only [String.toList_append, List.mem_append, not_or]
  refine ⟨⟨⟨⟨⟨?_, by decide⟩, ?_⟩, by decide⟩, hport⟩, by decide⟩
  · cases settings.transportSecurity <;> decide
  · split
    · show '?' ∉ ("[" ++ settings.host ++ "]").toList
      simpa [String.toList_append] using hhost
    · exact hhost

/-- The query of a URL is what follows its first question mark. -/
theorem serverParameters_eq (settings : ClickHouseConnectionSettings)
    (entries : List (String × String)) :
    serverParameters s!"{clickhouseBaseUrl settings}?{urlencodeSorted entries}"
      = some ((entries.mergeSort fun a b => decide (a.1 ≤ b.1)).map fun entry =>
          (utf8Encode entry.1, utf8Encode entry.2)) := by
  have hbase : ∀ c ∈ (clickhouseBaseUrl settings).toList, decide (c ≠ '?') = true := fun c hc => by
    simp only [decide_eq_true_eq]
    rintro rfl
    exact questionMark_not_mem_base settings hc
  have hurl : (s!"{clickhouseBaseUrl settings}?{urlencodeSorted entries}").toList
      = (clickhouseBaseUrl settings).toList ++ '?' :: (urlencodeSorted entries).toList := by
    show ((clickhouseBaseUrl settings ++ "?") ++ urlencodeSorted entries).toList = _
    simp [String.toList_append]
  have hquery : ('?' :: (urlencodeSorted entries).toList).dropWhile (fun c => decide (c ≠ '?'))
      = '?' :: (urlencodeSorted entries).toList := by
    simp
  rw [serverParameters, hurl, List.dropWhile_append_of_pos hbase, hquery, List.drop_one,
    List.tail_cons, urlencodeSorted, String.toList_ofList, decodeForm_encodeForm]
  simp only [textBytes_eq_utf8Encode]

/-- The entries of a URL: those of the transport, then the settings, then the
parameters of the query. -/
def requestEntries (endpoint : ClickHouseEndpoint) (arguments : RequestArguments)
    (effective : List (String × ClickHouseParameter)) (bound : List (String × String)) :
    List (String × String) :=
  [("database", endpoint.settings.database), ("query_id", uuidText arguments.queryId)]
    ++ endpoint.protocol.urlParameters
    ++ effective.map (fun setting => (setting.1, parameterText setting.2)) ++ bound

theorem urlEntries_eq_ok {endpoint : ClickHouseEndpoint} {arguments : RequestArguments}
    {bound : BoundQuery} {now : ℕ} {entries : List (String × String)}
    (h : endpoint.urlEntries arguments bound now = .ok entries) :
    ∃ effective texts,
      effectiveClickhouseQuerySettings arguments.querySettings
          endpoint.deadline.statementTimeoutMilliseconds
          (max 1 (arguments.ioDeadlineNanoseconds - now)) = .ok effective ∧
        bound.parameters = texts.map (fun entry => (some entry.1, some entry.2)) ∧
        entries = requestEntries endpoint arguments effective texts ∧
        (entryNames entries).Nodup := by
  obtain ⟨effective, heffective, h⟩ := bind_eq_ok.mp h
  obtain ⟨settled, hsettled, h⟩ := bind_eq_ok.mp h
  obtain ⟨hresult, hnodup⟩ := addSettings_eq_ok hsettled (nodup_fixedEntries _ _ _)
  obtain ⟨texts, htexts, hentries, hall⟩ := addBoundParameters_eq_ok h hnodup
  refine ⟨effective, texts, heffective, htexts, ?_, hall⟩
  rw [hentries, hresult, requestEntries]

/-- Sorted entries with distinct names ascend strictly. -/
theorem sorted_entries_ascend {entries : List (String × String)} (h : (entryNames entries).Nodup) :
    (entries.mergeSort fun a b => decide (a.1 ≤ b.1)).Pairwise fun a b => a.1 < b.1 := by
  have hsorted := List.pairwise_mergeSort
    (fun (a b c : String × String) (hab : decide (a.1 ≤ b.1) = true)
        (hbc : decide (b.1 ≤ c.1) = true) =>
      decide_eq_true ((of_decide_eq_true hab).trans (of_decide_eq_true hbc)))
    (fun a b => by simpa using le_total a.1 b.1) entries
  have hperm := List.mergeSort_perm entries fun a b => decide (a.1 ≤ b.1)
  have hnodup : (entryNames (entries.mergeSort fun a b => decide (a.1 ≤ b.1))).Nodup :=
    (hperm.map Prod.fst).nodup_iff.mpr h
  refine (hsorted.and (List.pairwise_map.mp hnodup)).imp fun {a b} hab => ?_
  exact lt_of_le_of_ne (of_decide_eq_true hab.1) hab.2

/-- What is true of every request that is built. -/
structure BuiltRequest (endpoint : ClickHouseEndpoint) (arguments : RequestArguments) (now : ℕ)
    (request : ClickHouseWireRequest) : Prop where
  carries : Carries endpoint arguments request
  url : ∃ effective bound, ∃ texts entries : List (String × String), ∃ seconds : ℕ,
    effectiveClickhouseQuerySettings arguments.querySettings
        endpoint.deadline.statementTimeoutMilliseconds
        (max 1 (arguments.ioDeadlineNanoseconds - now)) = .ok effective ∧
      ("max_execution_time", ClickHouseParameter.integer seconds) ∈ effective ∧
      seconds ≤ ceilingSeconds (max 1 (arguments.ioDeadlineNanoseconds - now)) ∧
      seconds ≤ (endpoint.deadline.statementTimeoutMilliseconds + 999) / 1000 + 1 ∧
      endpoint.bindQuery arguments.query arguments.parameters = .ok bound ∧
      bound.parameters = texts.map (fun entry => (some entry.1, some entry.2)) ∧
      entries.Perm (requestEntries endpoint arguments effective texts) ∧
      entries.Pairwise (fun a b => a.1 < b.1) ∧
      serverParameters request.url
        = some (entries.map fun entry => (utf8Encode entry.1, utf8Encode entry.2))

/-- What holds of `_clickhouse_http_request`. -/
structure RequestLaw (endpoint : ClickHouseEndpoint) : Prop where
  built : ∀ arguments now request,
    endpoint.clickhouseHttpRequest arguments now = .ok request →
      BuiltRequest endpoint arguments now request
  refused : ∀ arguments now error,
    endpoint.clickhouseHttpRequest arguments now = .error error →
      (∃ message, error = .programming message) ∨
        ∃ refusal, error = .refusal refusal ∧ refusal.error = .valueError

end ForensicData.ClickHouse
