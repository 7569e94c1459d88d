/-
ForensicData.Comparison.RowDecodingTheorems — what an accepted batch looks like.

Both decoders accept the same batches: every row lies in the requested range of
its segment identifier and carries the envelopes its key and values decode
from (`DecodedRow`), and the rows follow the ranges with strictly increasing
keys inside each (`AcceptedBatch`). So the groups of a batch are its ranges'
runs: nothing is lost or duplicated when they are taken apart.
-/
import ForensicData.Canonical.RowTheorems
import ForensicData.Comparison.RowDecoding
import ForensicData.Lib.KeyedList

namespace ForensicData.Comparison

open ForensicData.Canonical
open ForensicData.Lib

/-! ## Requested ranges -/

variable {ranges : List RangeRequest} {segmentId : String}

theorem requestedRange_eq_some {requested : RangeRequest} {ordinal : ℕ}
    (h : requestedRange ranges segmentId = some (requested, ordinal)) :
    ranges[ordinal]? = some requested ∧ requested.segmentId = segmentId := by
  have hmem := List.mem_of_find?_eq_some h
  rw [List.mem_reverse, List.mem_zipIdx_iff_getElem?] at hmem
  exact ⟨hmem, by simpa using List.find?_some h⟩

theorem validateRangesAfter_nodup {refuse : String → Refusal}
    {duplicated unbounded disordered : String} {seenIds : List String}
    {previousUpper : Option Int}
    (h : validateRangesAfter refuse duplicated unbounded disordered seenIds previousUpper ranges
      = .ok ()) :
    (ranges.map RangeRequest.segmentId).Nodup ∧ ∀ range ∈ ranges, range.segmentId ∉ seenIds := by
  induction ranges generalizing seenIds previousUpper with
  | nil => exact ⟨List.nodup_nil, by simp⟩
  | cons item ranges ih =>
    simp only [validateRangesAfter, bind_unit_eq_ok, refuseIf_eq_ok] at h
    obtain ⟨hunseen, -, -, hrest⟩ := h
    obtain ⟨hnodup, hlater⟩ := ih hrest
    refine ⟨?_, ?_⟩
    · rw [List.map_cons, List.nodup_cons]
      refine ⟨fun hmem => ?_, hnodup⟩
      obtain ⟨range, hrange, hid⟩ := List.mem_map.mp hmem
      exact hlater range hrange (hid ▸ List.mem_cons_self)
    · intro range hrange
      rw [List.mem_cons] at hrange
      cases hrange with
      | inl heq => rwa [heq]
      | inr hmem => exact fun hseen => hlater range hmem (List.mem_cons_of_mem _ hseen)

/-- The ranges a query builder accepts have distinct identifiers. -/
theorem validateRanges_nodup {refuse : String → Refusal}
    {empty duplicated unbounded disordered : String}
    (h : validateRanges refuse empty duplicated unbounded disordered ranges = .ok ()) :
    (ranges.map RangeRequest.segmentId).Nodup := by
  cases ranges with
  | nil => cases h
  | cons item ranges =>
    obtain ⟨hnodup, hlater⟩ := validateRangesAfter_nodup h
    rw [List.map_cons, List.nodup_cons]
    refine ⟨fun hmem => ?_, hnodup⟩
    obtain ⟨range, hrange, hid⟩ := List.mem_map.mp hmem
    exact hlater range hrange (hid ▸ List.mem_cons_self)

/-! ## One row -/

/-- The row may follow the rows before it. -/
def RowCursor.Allows (cursor : RowCursor) (ordinal : ℕ) (keyValue : Int) : Prop :=
  cursor.previousOrdinal ≤ ordinal ∧ cursor.repeats ordinal keyValue = false

variable (sha256 : Sha256) (schema : CanonicalSchema) (keyFieldIndex : ℕ)

/-- A row of the range at `ordinal`, with the envelopes its key and values decode
from. -/
structure DecodedRow (ranges : List RangeRequest) (field : FieldSchema) (ordinal : ℕ)
    (row : ExactRow) : Prop where
  requested : ∃ range, ranges[ordinal]? = some range ∧ range.segmentId = row.segmentId ∧
    range.covers row.keyValue = true
  key : decodeKey sha256 (keySchema schema field) row.keyEnvelope = .ok [.integer row.keyValue]
  values : decodeRow sha256 schema row.rowEnvelope = .ok row.values
  keyed : row.values[keyFieldIndex]? = some (some (.integer row.keyValue))

variable {sha256 schema keyFieldIndex} {field : FieldSchema}

theorem decodeEnvelopes_eq_ok {undecodable : String → Refusal} {keyEnvelope rowEnvelope : Bytes}
    {values : List DecodedValue × List (Option DecodedValue)}
    (h : decodeEnvelopes sha256 schema field undecodable keyEnvelope rowEnvelope = .ok values) :
    decodeKey sha256 (keySchema schema field) keyEnvelope = .ok values.1 ∧
      decodeRow sha256 schema rowEnvelope = .ok values.2 := by
  simp only [decodeEnvelopes] at h
  split at h
  · rename_i decoded hdecoded
    cases h
    simp only [bind_eq_ok, Except.ok.injEq] at hdecoded
    obtain ⟨keyValues, hkey, rowValues, hrow, rfl⟩ := hdecoded
    exact ⟨hkey, hrow⟩
  · cases h

/-- A key of one field decodes to one value. -/
theorem length_of_decodeKey {envelope : Bytes} {values : List DecodedValue}
    (h : decodeKey sha256 (keySchema schema field) envelope = .ok values) : values.length = 1 := by
  rw [decodeKey_eq_ok] at h
  obtain ⟨parsed, hdecoded, -⟩ := h
  have hpairs : List.Forall₂ (fun _ _ => True) (keySchema schema field).fields values :=
    hdecoded.forall₂_right fun _ _ _ _ => trivial
  exact hpairs.length_eq.symm

theorem decodedKeys_eq_ok {notInteger : Refusal} {keyValues : List DecodedValue}
    {rowValues : List (Option DecodedValue)} {keys : Int × Int} (hlength : keyValues.length = 1)
    (h : decodedKeys keyFieldIndex notInteger keyValues rowValues = .ok keys) :
    keyValues = [.integer keys.1] ∧
      rowValues[keyFieldIndex]? = some (some (.integer keys.2)) := by
  unfold decodedKeys at h
  split at h
  · rename_i keyValue rowKeyValue hhead hvalue
    cases h
    refine ⟨?_, hvalue⟩
    obtain ⟨value, hvalues⟩ := List.length_eq_one_iff.mp hlength
    rw [hvalues] at hhead ⊢
    rw [Option.some.inj hhead]
  · cases h

theorem ExactRow.make_eq_ok {keyValue : Int} {keyEnvelope rowEnvelope : Bytes}
    {values : List (Option DecodedValue)} {row : ExactRow}
    (h : ExactRow.make segmentId keyValue keyEnvelope rowEnvelope values = .ok row) :
    row.segmentId = segmentId ∧ row.keyValue = keyValue ∧ row.keyEnvelope = keyEnvelope ∧
      row.rowEnvelope = rowEnvelope ∧ row.values = values := by
  unfold ExactRow.make at h
  split at h
  · cases h
  · split at h
    · cases h
      exact ⟨rfl, rfl, rfl, rfl, rfl⟩
    · cases h

/-- The checks both decoders make on a row of a requested range. -/
theorem decodedRow_of_checks {undecodable : String → Refusal} {notInteger : Refusal}
    {requested : RangeRequest} {ordinal : ℕ} {keyEnvelope rowEnvelope : Bytes}
    {values : List DecodedValue × List (Option DecodedValue)} {keys : Int × Int} {row : ExactRow}
    (hrequested : requestedRange ranges segmentId = some (requested, ordinal))
    (hvalues : decodeEnvelopes sha256 schema field undecodable keyEnvelope rowEnvelope
      = .ok values)
    (hkeys : decodedKeys keyFieldIndex notInteger values.1 values.2 = .ok keys)
    (hagree : keys.1 = keys.2) (hcovers : requested.covers keys.1 = true)
    (hrow : ExactRow.make segmentId keys.1 keyEnvelope rowEnvelope values.2 = .ok row) :
    row.keyValue = keys.1 ∧
      DecodedRow sha256 schema keyFieldIndex ranges field ordinal row := by
  obtain ⟨hkey, hdecoded⟩ := decodeEnvelopes_eq_ok hvalues
  obtain ⟨hkeyValues, hkeyed⟩ := decodedKeys_eq_ok (length_of_decodeKey hkey) hkeys
  obtain ⟨hrange, hid⟩ := requestedRange_eq_some hrequested
  obtain ⟨hsegment, hvalue, hkeyEnvelope, hrowEnvelope, hrowValues⟩ := ExactRow.make_eq_ok hrow
  refine ⟨hvalue, ⟨⟨requested, hrange, hid.trans hsegment.symm, hvalue ▸ hcovers⟩, ?_, ?_, ?_⟩⟩
  · rw [hkeyEnvelope, hkey, hkeyValues, hvalue]
  · rw [hrowEnvelope, hdecoded, hrowValues]
  · rw [hrowValues, hkeyed, ← hagree, hvalue]

/-- A round of a decoder accepts rows of requested ranges that may follow the
cursor. -/
def Decodes (sha256 : Sha256) (schema : CanonicalSchema) (keyFieldIndex : ℕ)
    (ranges : List RangeRequest) (field : FieldSchema) {Raw : Type}
    (decode : RowCursor → Raw → Except Refusal (Option (ℕ × ExactRow))) : Prop :=
  ∀ cursor raw ordinal row, decode cursor raw = .ok (some (ordinal, row)) →
    DecodedRow sha256 schema keyFieldIndex ranges field ordinal row ∧
      cursor.Allows ordinal row.keyValue

theorem Postgres.decodes (query : Postgres.PostgresQuery) :
    Decodes sha256 query.schema keyFieldIndex ranges field
      (Postgres.rowFromDatabase sha256 ranges keyFieldIndex query field) := by
  intro cursor raw ordinal row h
  simp only [rowFromDatabase, bind_eq_ok] at h
  obtain ⟨payload, -, h⟩ := h
  unfold rowOfPayload at h
  split at h
  · rename_i marker segment key rowValue invalid oversized
    rw [bind_eq_ok] at h
    obtain ⟨hasData, -, h⟩ := h
    unfold rowOfData at h
    split at h
    · cases h
    · rw [bind_eq_ok] at h
      obtain ⟨segmentId, -, h⟩ := h
      cases hrequested : requestedRange ranges segmentId with
      | none =>
        rw [hrequested] at h
        cases h
      | some found =>
        rw [hrequested] at h
        obtain ⟨requested, found⟩ := found
        simp only [rowOfSegment, rowOfEnvelopes, bind_eq_ok, refuseIf_eq_ok] at h
        obtain ⟨-, horder, -, -, keyEnvelope, -, rowEnvelope, -, -, -, values, hvalues, keys, hkeys,
          -, hagree, -, hcovers, -, hrepeats, exactRow, hrow, hresult⟩ := h
        rw [Except.ok.injEq, Option.some.injEq, Prod.mk.injEq] at hresult
        obtain ⟨rfl, rfl⟩ := hresult
        obtain ⟨hvalue, hdecoded⟩ := decodedRow_of_checks hrequested hvalues hkeys
          (not_not.mp hagree) (by simpa using hcovers) hrow
        refine ⟨hdecoded, ⟨by omega, ?_⟩⟩
        rw [hvalue]
        simpa using hrepeats
  · cases h

theorem ClickHouse.decodes (maxEncodedEnvelopeBytes : ℕ) :
    Decodes sha256 schema keyFieldIndex ranges field
      (ClickHouse.rowFromRecord sha256 ranges keyFieldIndex schema maxEncodedEnvelopeBytes field)
      := by
  intro cursor record ordinal row h
  simp only [rowFromRecord, bind_eq_ok] at h
  obtain ⟨segmentId, -, h⟩ := h
  cases hrequested : requestedRange ranges segmentId with
  | none =>
    rw [hrequested] at h
    cases h
  | some found =>
    rw [hrequested] at h
    obtain ⟨requested, found⟩ := found
    simp only [rowOfSegment, bind_eq_ok, refuseIf_eq_ok] at h
    obtain ⟨-, -, keyEnvelope, -, rowEnvelope, -, -, -, values, hvalues, keys, hkeys, -, hagree, -,
      hcovers, -, horder, exactRow, hrow, hresult⟩ := h
    rw [Except.ok.injEq, Option.some.injEq, Prod.mk.injEq] at hresult
    obtain ⟨rfl, rfl⟩ := hresult
    obtain ⟨hvalue, hdecoded⟩ := decodedRow_of_checks hrequested hvalues hkeys
      (not_not.mp hagree) (by simpa using hcovers) hrow
    rw [not_or] at horder
    refine ⟨hdecoded, ⟨by omega, ?_⟩⟩
    rw [hvalue]
    simpa using horder.2

/-! ## A batch -/

/-- The rows follow the ranges, with strictly increasing keys inside each. -/
def Placed (placed : List (ℕ × ExactRow)) : Prop :=
  placed.Pairwise fun a b => a.1 < b.1 ∨ a.1 = b.1 ∧ a.2.keyValue < b.2.keyValue

/-- The loop keeps what its rounds accept, in order. -/
theorem decodeLoop_placed {Raw : Type} {requireDeadline : ℕ → Except Refusal Unit}
    {decode : RowCursor → Raw → Except Refusal (Option (ℕ × ExactRow))}
    (hdecode : Decodes sha256 schema keyFieldIndex ranges field decode) {raws : List Raw}
    {index : ℕ} {cursor : RowCursor} {rows : List ExactRow}
    (h : decodeLoop requireDeadline decode index cursor raws = .ok rows) :
    ∃ placed, placed.map Prod.snd = rows ∧ Placed placed ∧
      ∀ item ∈ placed, DecodedRow sha256 schema keyFieldIndex ranges field item.1 item.2 ∧
        cursor.Allows item.1 item.2.keyValue := by
  induction raws generalizing index cursor rows with
  | nil =>
    rw [decodeLoop, bind_unit_eq_ok] at h
    cases h.2
    exact ⟨[], rfl, .nil, by simp⟩
  | cons raw raws ih =>
    rw [decodeLoop, bind_unit_eq_ok, bind_eq_ok] at h
    obtain ⟨-, found, hfound, h⟩ := h
    cases found with
    | none => exact ih h
    | some found =>
      obtain ⟨ordinal, row⟩ := found
      simp only [bind_eq_ok, Except.ok.injEq] at h
      obtain ⟨rest, hrest, rfl⟩ := h
      obtain ⟨hdecoded, hallows⟩ := hdecode cursor raw ordinal row hfound
      obtain ⟨placed, hplaced, hordered, hitems⟩ := ih hrest
      have hafter : ∀ item ∈ placed,
          ordinal < item.1 ∨ ordinal = item.1 ∧ row.keyValue < item.2.keyValue := by
        intro item hitem
        obtain ⟨hle, hkey⟩ := (hitems item hitem).2
        have hle' : ordinal ≤ item.1 := by simpa using hle
        obtain hlt | heq := Nat.lt_or_eq_of_le hle'
        · exact .inl hlt
        · refine .inr ⟨heq, ?_⟩
          simp only [RowCursor.repeats, heq, decide_true, Bool.true_and, Option.any_some,
            decide_eq_false_iff_not, not_le] at hkey
          exact hkey
      refine ⟨(ordinal, row) :: placed, by rw [List.map_cons, hplaced],
        List.pairwise_cons.mpr ⟨hafter, hordered⟩, fun item hitem => ?_⟩
      rw [List.mem_cons] at hitem
      cases hitem with
      | inl heq =>
        rw [heq]
        exact ⟨hdecoded, hallows⟩
      | inr hmem =>
        refine ⟨(hitems item hmem).1, ?_⟩
        obtain ⟨hle, hrepeats⟩ := hallows
        obtain hlt | ⟨heq, hkey⟩ := hafter item hmem
        · refine ⟨by omega, ?_⟩
          have hne : (item.1 : Int) ≠ cursor.previousOrdinal := by omega
          rw [RowCursor.repeats, decide_eq_false hne, Bool.false_and]
        · refine ⟨by omega, ?_⟩
          rw [← heq]
          unfold RowCursor.repeats at hrepeats ⊢
          rw [Bool.and_eq_false_iff] at hrepeats ⊢
          refine hrepeats.imp_right fun hprevious => ?_
          cases hprev : cursor.previousKey with
          | none => rfl
          | some previous =>
            simp only [hprev, Option.any_some, decide_eq_false_iff_not, not_le] at hprevious ⊢
            omega

/-- A batch either decoder accepts for the ranges, under one schema and key
field. -/
inductive AcceptedBatch (sha256 : Sha256) (schema : CanonicalSchema) (keyFieldIndex : ℕ)
    (ranges : List RangeRequest) (rows : List ExactRow) : Prop where
  | postgres (query : Postgres.PostgresQuery) (raws : List Postgres.DatabaseRow)
      (deadline : ReadDeadline) (hschema : query.schema = schema)
      (h : Postgres.integerExactRowsFromDatabase sha256 ranges keyFieldIndex query raws deadline
        = .ok rows)
  | clickHouse (maxEncodedEnvelopeBytes : ℕ) (records : List ClickHouse.ExactRecord)
      (deadline : ReadDeadline)
      (h : ClickHouse.parseExactRows sha256 ranges keyFieldIndex schema maxEncodedEnvelopeBytes
        records deadline = .ok rows)

variable {rows : List ExactRow}

theorem AcceptedBatch.placed (h : AcceptedBatch sha256 schema keyFieldIndex ranges rows) :
    ∃ field placed, schema.fields[keyFieldIndex]? = some field ∧ placed.map Prod.snd = rows ∧
      Placed placed ∧
      ∀ item ∈ placed, DecodedRow sha256 schema keyFieldIndex ranges field item.1 item.2 := by
  cases h with
  | postgres query raws deadline hschema h =>
    subst hschema
    unfold Postgres.integerExactRowsFromDatabase at h
    split at h
    · cases h
    · rename_i field hfield
      obtain ⟨placed, hplaced, hordered, hitems⟩ := decodeLoop_placed (Postgres.decodes query) h
      exact ⟨field, placed, hfield, hplaced, hordered, fun item hitem => (hitems item hitem).1⟩
  | clickHouse maxEncodedEnvelopeBytes records deadline h =>
    unfold ClickHouse.parseExactRows at h
    split at h
    · cases h
    · rename_i field hfield
      obtain ⟨placed, hplaced, hordered, hitems⟩ :=
        decodeLoop_placed (ClickHouse.decodes maxEncodedEnvelopeBytes) h
      exact ⟨field, placed, hfield, hplaced, hordered, fun item hitem => (hitems item hitem).1⟩

/-! ## The groups of a batch -/

/-- Where identifiers are distinct, the ordinal of a row is the position of its
identifier. -/
theorem DecodedRow.idxOf {ordinal : ℕ} {row : ExactRow}
    (hids : (ranges.map RangeRequest.segmentId).Nodup)
    (h : DecodedRow sha256 schema keyFieldIndex ranges field ordinal row) :
    (ranges.map RangeRequest.segmentId).idxOf row.segmentId = ordinal := by
  obtain ⟨range, hrange, hid, -⟩ := h.requested
  obtain ⟨hlt, hget⟩ := List.getElem?_eq_some_iff.mp hrange
  have hbound : ordinal < (ranges.map RangeRequest.segmentId).length := by simpa using hlt
  have hmap : (ranges.map RangeRequest.segmentId)[ordinal] = row.segmentId := by
    rw [List.getElem_map, hget, hid]
  rw [← hmap]
  exact hids.idxOf_getElem ordinal hbound

end ForensicData.Comparison
