/-
ForensicData.ClickHouse.BoundedBody — what the bounded reader keeps of a body.

The reader asks for at most one byte more than its limit allows. Whatever the
chunks of a framed body are, it keeps the body up to that byte and says that it
is truncated exactly when that byte is there (`readBoundedBody_framed`). A
response that breaks off is never read as clean.
-/
import ForensicData.ClickHouse.HttpResponse

namespace ForensicData.ClickHouse

open ForensicData.Canonical

variable {response : HttpResponse} {body : Bytes} {limit : ℕ}

/-! ## Responses that serve a body -/

/-- The chunks are at most what is asked for and go on with the body; a response
whose end is framed ends with it. It may also fail or break off. -/
structure Serves (response : HttpResponse) (body : Bytes) : Prop where
  goesOn : ∀ chunks amount bytes, chunks.flatten <+: body → 0 < amount →
    response.read1 chunks amount = .chunk bytes →
      bytes.length ≤ amount ∧ chunks.flatten ++ bytes <+: body
  ends : ∀ chunks amount, chunks.flatten <+: body → 0 < amount →
    response.read1 chunks amount = .chunk [] → response.eofIsFramed = true →
      chunks.flatten = body

/-- The response does not fail and its end is framed. -/
structure ServesFramed (response : HttpResponse) (body : Bytes) : Prop
    extends Serves response body where
  answers : ∀ chunks amount, chunks.flatten <+: body → 0 < amount →
    ∃ bytes, response.read1 chunks amount = .chunk bytes
  framed : response.eofIsFramed = true

/-- The response that sends as much of a body as it is asked for. -/
def HttpResponse.sending (response : HttpResponse) (body : Bytes) : HttpResponse :=
  { response with
    read1 := fun chunks amount => .chunk ((body.drop chunks.flatten.length).take amount)
    eofIsFramed := true }

theorem servesFramed_sending (response : HttpResponse) (body : Bytes) :
    ServesFramed (response.sending body) body where
  goesOn := by
    intro chunks amount bytes hchunks _ hread
    obtain rfl := (ReadEvent.chunk.inj hread).symm
    obtain ⟨rest, rfl⟩ := hchunks
    rw [List.drop_left]
    exact ⟨List.length_take_le _ _, List.prefix_append_right_inj _ |>.mpr (List.take_prefix _ _)⟩
  ends := by
    intro chunks amount hchunks hamount hread _
    have hempty := ReadEvent.chunk.inj hread
    obtain ⟨rest, rfl⟩ := hchunks
    rw [List.drop_left, List.take_eq_nil_iff] at hempty
    rcases hempty with hzero | hrest
    · omega
    · simp [hrest]
  answers := by
    intro chunks amount _ _
    exact ⟨_, rfl⟩
  framed := rfl

/-! ## Any response -/

/-- A clean truncated read holds more than the limit. -/
theorem limit_lt_of_truncated (chunks : List Bytes) (received : ℕ)
    (hreceived : received = chunks.flatten.length)
    (hclean : (readBoundedBodyFrom response limit chunks received).terminalStatus = .clean)
    (htruncated : (readBoundedBodyFrom response limit chunks received).truncated = true) :
    limit < (readBoundedBodyFrom response limit chunks received).payload.length := by
  induction hroom : limit + 1 - received using Nat.strongRecOn generalizing chunks received with
  | ind room ih =>
    rw [readBoundedBodyFrom] at hclean htruncated ⊢
    by_cases hlimit : received ≤ limit
    · rw [if_pos hlimit] at hclean htruncated ⊢
      cases hread : response.read1 chunks (min 65536 (limit + 1 - received)) with
      | failure kind fragment causeType =>
        simp only [hread] at hclean
        cases kind <;> cases hclean
      | chunk bytes =>
        simp only [hread] at hclean htruncated ⊢
        by_cases hbytes : bytes = []
        · rw [if_pos hbytes] at htruncated
          cases htruncated
        · rw [if_neg hbytes] at hclean htruncated ⊢
          have hpos := List.length_pos_iff.mpr hbytes
          exact ih (limit + 1 - (received + bytes.length)) (by omega) _ _
            (by simp [hreceived]) hclean htruncated rfl
    · rw [if_neg hlimit]
      show limit < chunks.flatten.length
      omega

/-- A cause is never an empty text. -/
theorem causeType_readBoundedBodyFrom (chunks : List Bytes) (received : ℕ) :
    (readBoundedBodyFrom response limit chunks received).causeType ≠ some "" := by
  induction hroom : limit + 1 - received using Nat.strongRecOn generalizing chunks received with
  | ind room ih =>
    rw [readBoundedBodyFrom]
    by_cases hlimit : received ≤ limit
    · rw [if_pos hlimit]
      cases response.read1 chunks (min 65536 (limit + 1 - received)) with
      | failure kind fragment causeType =>
        have hname := causeType.property
        cases kind <;> simpa [bodyReadFailure, boundedBodyReadFailure] using hname
      | chunk bytes =>
        by_cases hbytes : bytes = []
        · simp only [hbytes, if_true, bodyEnd]
          split <;> simp
        · simp only [hbytes, if_false]
          have hpos := List.length_pos_iff.mpr hbytes
          exact ih (limit + 1 - (received + bytes.length)) (by omega) _ _ rfl
    · simp [if_neg hlimit]

/-! ## Served bodies -/

/-- What has been read of a served body. -/
inductive ReadsBody (body : Bytes) (limit : ℕ) (read : BoundedBodyRead) : Prop
  | whole (hlength : body.length ≤ limit) (hpayload : read.payload = body)
    (htruncated : read.truncated = false) (hclean : read.terminalStatus = .clean)
  | cut (hlength : limit < body.length) (hpayload : read.payload = body.take (limit + 1))
    (htruncated : read.truncated = true) (hclean : read.terminalStatus = .clean)
  | broken (hclean : read.terminalStatus ≠ .clean) (hlength : read.payload.length ≤ limit + 1)

/-- The length of a failed read is within the limit. -/
theorem length_bodyReadFailure_le {chunks : List Bytes} {received : ℕ} {kind : ReadFailure}
    {fragment : Bytes} {causeType : String} (hreceived : received = chunks.flatten.length)
    (hlimit : received ≤ limit) :
    (bodyReadFailure chunks received limit kind fragment causeType).payload.length ≤
      limit + 1 := by
  cases kind
  case osError =>
    show chunks.flatten.length ≤ limit + 1
    omega
  all_goals
    show (chunks ++ [fragment.take (limit + 1 - received)]).flatten.length ≤ limit + 1
    simp only [List.flatten_append, List.flatten_cons, List.flatten_nil, List.append_nil,
      List.length_append, List.length_take]
    omega

theorem terminalStatus_bodyReadFailure {chunks : List Bytes} {received : ℕ} {kind : ReadFailure}
    {fragment : Bytes} {causeType : String} :
    (bodyReadFailure chunks received limit kind fragment causeType).terminalStatus ≠ .clean := by
  cases kind <;> exact fun h => by cases h

/-- A run of the loop from a part of the body. -/
theorem readsBody_from (h : Serves response body) (chunks : List Bytes) (received : ℕ)
    (hreceived : received = chunks.flatten.length) (hchunks : chunks.flatten <+: body)
    (hmost : received ≤ limit + 1) :
    ReadsBody body limit (readBoundedBodyFrom response limit chunks received) := by
  induction hroom : limit + 1 - received using Nat.strongRecOn generalizing chunks received with
  | ind room ih =>
    rw [readBoundedBodyFrom]
    by_cases hlimit : received ≤ limit
    · rw [if_pos hlimit]
      have hamount : 0 < min 65536 (limit + 1 - received) := by omega
      cases hread : response.read1 chunks (min 65536 (limit + 1 - received)) with
      | failure kind fragment causeType =>
        exact .broken terminalStatus_bodyReadFailure (length_bodyReadFailure_le hreceived hlimit)
      | chunk bytes =>
        by_cases hbytes : bytes = []
        · subst hbytes
          simp only [if_true]
          cases hframed : response.eofIsFramed with
          | true =>
            have hbody := h.ends chunks _ hchunks hamount hread hframed
            exact .whole (by rw [← hbody]; omega) hbody rfl rfl
          | false =>
            refine .broken (fun hclean => by cases hclean) ?_
            show chunks.flatten.length ≤ limit + 1
            omega
        · simp only [hbytes, if_false]
          have hpos := List.length_pos_iff.mpr hbytes
          obtain ⟨hamount', hbody⟩ := h.goesOn chunks _ bytes hchunks hamount hread
          exact ih (limit + 1 - (received + bytes.length)) (by omega) _ _
            (by simp [hreceived]) (by simpa using hbody) (by omega) rfl
    · rw [if_neg hlimit]
      have hfull : chunks.flatten.length = limit + 1 := by omega
      refine .cut ?_ ?_ rfl rfl
      · have := hchunks.length_le
        omega
      · show chunks.flatten = body.take (limit + 1)
        rw [← hfull]
        exact List.prefix_iff_eq_take.mp hchunks

theorem readsBody (h : Serves response body) (limit : ℕ) :
    ReadsBody body limit (readBoundedBody response limit) :=
  readsBody_from h [] 0 rfl (List.nil_prefix) (Nat.zero_le _)

theorem ReadsBody.length_le {read : BoundedBodyRead} (h : ReadsBody body limit read) :
    read.payload.length ≤ limit + 1 := by
  cases h with
  | whole hlength hpayload =>
    rw [hpayload]
    omega
  | cut hlength hpayload =>
    rw [hpayload, List.length_take]
    omega
  | broken _ hlength => exact hlength

/-- A framed body is read up to the byte after the limit. -/
theorem terminalStatus_framed (h : ServesFramed response body) (chunks : List Bytes) (received : ℕ)
    (hreceived : received = chunks.flatten.length) (hchunks : chunks.flatten <+: body) :
    (readBoundedBodyFrom response limit chunks received).terminalStatus = .clean := by
  induction hroom : limit + 1 - received using Nat.strongRecOn generalizing chunks received with
  | ind room ih =>
    rw [readBoundedBodyFrom]
    by_cases hlimit : received ≤ limit
    · rw [if_pos hlimit]
      have hamount : 0 < min 65536 (limit + 1 - received) := by omega
      obtain ⟨bytes, hread⟩ := h.answers chunks _ hchunks hamount
      simp only [hread]
      by_cases hbytes : bytes = []
      · rw [if_pos hbytes, h.framed]
        rfl
      · rw [if_neg hbytes]
        have hpos := List.length_pos_iff.mpr hbytes
        obtain ⟨-, hbody⟩ := h.goesOn chunks _ bytes hchunks hamount hread
        exact ih (limit + 1 - (received + bytes.length)) (by omega) _ _
          (by simp [hreceived]) (by simpa using hbody) rfl
    · rw [if_neg hlimit]

/-- However the body is chunked, what is kept of it depends on the body alone. -/
theorem readBoundedBody_framed (h : ServesFramed response body) :
    (readBoundedBody response limit).payload = body.take (limit + 1) ∧
      ((readBoundedBody response limit).truncated = true ↔ limit < body.length) ∧
      (readBoundedBody response limit).terminalStatus = .clean := by
  have hclean : (readBoundedBody response limit).terminalStatus = .clean :=
    terminalStatus_framed h [] 0 rfl List.nil_prefix
  refine ⟨?_, ?_, hclean⟩
  · cases readsBody h.toServes limit with
    | whole hlength hpayload => rw [hpayload, List.take_of_length_le (by omega)]
    | cut _ hpayload => exact hpayload
    | broken hbroken => exact absurd hclean hbroken
  · cases readsBody h.toServes limit with
    | whole hlength _ htruncated => simp [htruncated, Nat.not_lt.mpr hlength]
    | cut hlength _ htruncated => simp [htruncated, hlength]
    | broken hbroken => exact absurd hclean hbroken

/-- A framed body within the limit is read whole. -/
theorem payload_framed (h : ServesFramed response body) (hlength : body.length ≤ limit) :
    (readBoundedBody response limit).payload = body := by
  rw [(readBoundedBody_framed h).1, List.take_of_length_le (by omega)]

end ForensicData.ClickHouse
