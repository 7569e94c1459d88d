/-
ForensicData.SqlServer.StagingTheorems — staged and direct fingerprints agree.

A column of the captured table has the type of the column it is captured from,
so what a row holds is stored as it is (`storeRows_joinRows`), and a schema that
supports staging fits a record (`capture_eq_ok`). What a query returns is the
fingerprints of its ranges in order, whatever order its rows come in
(`returns_iff`), so the two queries return the same. The claim about them is
`staged_direct_agree`.
-/
import ForensicData.Canonical.RowTheorems
import ForensicData.SqlServer.IntegerRanges
import Mathlib.Data.List.MinMax

namespace ForensicData.SqlServer

open ForensicData.Canonical
open ForensicData.Lib
open Relational

/-! ## Stored rows -/

/-- The column holds the cell. -/
def CellHolds (binding : MssqlFieldBinding) (cell : MssqlCell) : Prop :=
  ∀ value ∈ cell, binding.physical.Holds value

/-- A row of the relation: a cell for every column, in order. -/
def RowHolds (inspection : MssqlInspectedRelation) (row : List MssqlCell) : Prop :=
  List.Forall₂ CellHolds inspection.bindings row

theorem assignCell_of_holds {binding : MssqlFieldBinding} {cell : MssqlCell}
    (h : CellHolds binding cell) : binding.physical.assignCell cell = .ok cell := by
  cases cell with
  | none => rfl
  | some value =>
    simp only [MssqlPhysicalField.assignCell, MssqlPhysicalField.assign_of_holds (h value rfl)]
    rfl

theorem assignFields_of_holds {bindings : List MssqlFieldBinding} {row : List MssqlCell}
    (h : List.Forall₂ CellHolds bindings row) :
    RangeFingerprintQuery.assignFields bindings row = .ok row := by
  induction h with
  | nil => rfl
  | cons hcell _ ih =>
    unfold RangeFingerprintQuery.assignFields
    rw [assignCell_of_holds hcell, ih]
    rfl

theorem holds_replicate_none (bindings : List MssqlFieldBinding) :
    List.Forall₂ CellHolds bindings (List.replicate bindings.length none) := by
  induction bindings with
  | nil => exact .nil
  | cons binding bindings ih =>
    rw [List.length_cons, List.replicate_succ]
    refine .cons ?_ ih
    intro value hvalue
    cases hvalue

variable {query : RangeFingerprintQuery} {origin : Bool} {table : List (List MssqlCell)}

theorem storeRows_of_holds {rows : List RangeSourceRow}
    (h : ∀ row ∈ rows, RowHolds query.inspection row.fields) : query.storeRows rows = .ok rows := by
  induction rows with
  | nil => rfl
  | cons row rows ih =>
    unfold RangeFingerprintQuery.storeRows
    rw [assignFields_of_holds (h row List.mem_cons_self),
      ih fun other hother => h other (List.mem_cons_of_mem row hother)]
    rfl

/-- The rows of the join hold rows of the table, or NULL in all columns. -/
theorem joinRows_holds (htable : ∀ row ∈ table, RowHolds query.inspection row) :
    ∀ row ∈ query.joinRows origin table, RowHolds query.inspection row.fields := by
  intro row hrow
  unfold RangeFingerprintQuery.joinRows at hrow
  split at hrow
  · obtain ⟨⟨item, source⟩, hitem, rfl⟩ := List.mem_map.mp hrow
    cases source with
    | none => exact holds_replicate_none query.inspection.bindings
    | some fields =>
      apply htable
      have hsource : fields ∈ (leftJoin (fun (item : MssqlIntegerRangeRequest × ℕ) row =>
          query.inRange item.1 row) query.ranges.zipIdx table).filterMap (·.2) :=
        List.mem_filterMap.mpr ⟨(item, some fields), hitem, rfl⟩
      rw [filterMap_leftJoin] at hsource
      obtain ⟨range, -, hfields⟩ := List.mem_flatMap.mp hsource
      exact (List.mem_filter.mp hfields).1
  · simp at hrow

/-- Capturing the join stores it as it is. -/
theorem storeRows_joinRows (htable : ∀ row ∈ table, RowHolds query.inspection row) :
    query.storeRows (query.joinRows origin table) = .ok (query.joinRows origin table) :=
  storeRows_of_holds (joinRows_holds htable)

/-! ## Records -/

/-- A mapped column of a type without texts has a fixed length. -/
theorem not_isVariable {field : FieldSchema} {physical : MssqlPhysicalField} {index : ℕ}
    (hmapped : validatePhysicalMapping field physical index = .ok ())
    (hlogical : field.logicalType ≠ .string) : isVariable physical = false := by
  unfold validatePhysicalMapping at hmapped
  simp only [bind_unit_eq_ok, refuseIf_eq_ok, not_not] at hmapped
  have hfixed : ∀ name ∈ allowedBaseTypes field.logicalType, name ∉ ["varchar", "nvarchar"] := by
    cases h : field.logicalType with
    | string => exact absurd h hlogical
    | _ => decide
  unfold isVariable
  rw [decide_eq_false_iff_not]
  exact hfixed _ hmapped.2.2.1

variable {schema : CanonicalSchema} {inspection : MssqlInspectedRelation}

/-- Every field of a valid inspection is mapped. -/
theorem validateMssqlInspection_mapped (h : validateMssqlInspection schema inspection = .ok ()) :
    inspection.bindings.length = schema.fields.length ∧
      ∀ item ∈ schema.fields.zip inspection.bindings,
        ∃ index, validatePhysicalMapping item.1 item.2.physical index = .ok () := by
  unfold validateMssqlInspection at h
  simp only [bind_unit_eq_ok, refuseIf_eq_ok, not_not] at h
  obtain ⟨-, hlength, hloop⟩ := h
  refine ⟨hlength, ?_⟩
  intro item hitem
  obtain ⟨index, hindex⟩ := List.getElem?_of_mem hitem
  have hround := forM_eq_ok.mp hloop _ (List.mk_mem_zipIdx_iff_getElem?.mpr hindex)
  unfold validateBinding at hround
  exact ⟨index, (bind_unit_eq_ok.mp hround).2⟩

/-- The bytes of columns of fixed length. -/
theorem sum_recordColumnBytes {bindings : List MssqlFieldBinding}
    (h : ∀ binding ∈ bindings, binding.physical.maxLength ≠ -1) :
    (((bindings.map fun binding => recordColumnBytes binding.physical).sum : ℕ) : Int) =
      (bindings.map fun binding => binding.physical.maxLength).sum := by
  induction bindings with
  | nil => rfl
  | cons binding bindings ih =>
    have hfirst := h binding List.mem_cons_self
    have hrange := binding.physical.maxLength_range
    have hrest := ih fun other hother => h other (List.mem_cons_of_mem binding hother)
    rw [List.map_cons, List.sum_cons, List.map_cons, List.sum_cons, ← hrest, recordColumnBytes,
      if_neg hfirst]
    omega

/-- The captured table of a schema that supports staging is one of SQL Server. -/
theorem rawTable_fits (hinspection : validateMssqlInspection schema inspection = .ok ())
    (hsupports : supportsFixedWidthIntegerRangeStaging schema inspection = true) :
    rawColumns inspection ≤ maxTableColumns ∧ rawRecordBytes inspection ≤ maxRecordBytes := by
  obtain ⟨hlength, hmapped⟩ := validateMssqlInspection_mapped hinspection
  unfold supportsFixedWidthIntegerRangeStaging at hsupports
  simp only [Bool.and_eq_true, decide_eq_true_eq, List.all_eq_true, List.length_zip] at hsupports
  obtain ⟨⟨hfields, hbytes⟩, hfixed⟩ := hsupports
  have hbindings : (schema.fields.zip inspection.bindings).map (·.2) = inspection.bindings :=
    List.map_snd_zip hlength.le
  have hmember : ∀ binding ∈ inspection.bindings,
      ∃ field, (field, binding) ∈ schema.fields.zip inspection.bindings := by
    intro binding hbinding
    rw [← hbindings] at hbinding
    obtain ⟨⟨field, other⟩, hitem, rfl⟩ := List.mem_map.mp hbinding
    exact ⟨field, hitem⟩
  have hvariable : inspection.bindings.filter (isVariable ·.physical) = [] := by
    rw [List.filter_eq_nil_iff]
    intro binding hbinding
    obtain ⟨field, hitem⟩ := hmember binding hbinding
    obtain ⟨index, hindex⟩ := hmapped _ hitem
    rw [not_isVariable hindex (hfixed _ hitem).1]
    exact Bool.false_ne_true
  have hsum := @sum_recordColumnBytes inspection.bindings fun binding hbinding => by
    obtain ⟨field, hitem⟩ := hmember binding hbinding
    exact (hfixed _ hitem).2
  have hmax : (schema.fields.zip inspection.bindings).map
      (fun item => item.2.physical.maxLength) =
        inspection.bindings.map fun binding => binding.physical.maxLength := by
    conv_rhs => rw [← hbindings]
    rw [List.map_map]
    rfl
  rw [hmax, ← hsum, ← hlength, Nat.min_self] at hbytes
  rw [← hlength, Nat.min_self] at hfields
  unfold rawColumns rawRecordBytes rawColumns
  rw [hvariable]
  unfold maxIntegerRangeStagedFields maxCompiledRelationMembers integerRangeRawFixedColumns
    at hfields
  unfold maxIntegerRangeRawRowBytes maxIntegerRangeSegmentIdBytes integerRangeRawFixedColumns
    integerRangeRawRecordMetadataBytes at hbytes
  unfold maxTableColumns maxRecordBytes maxIntegerRangeSegmentIdBytes
  simp only [List.length_nil]
  constructor
  · omega
  · omega

/-- A schema that supports staging has its join captured as it is. -/
theorem capture_eq_ok (hinspection : validateMssqlInspection schema query.inspection = .ok ())
    (hsupports : supportsFixedWidthIntegerRangeStaging schema query.inspection = true)
    (htable : ∀ row ∈ table, RowHolds query.inspection row) :
    query.capture origin table = .ok (query.joinRows origin table) := by
  obtain ⟨hcolumns, hbytes⟩ := rawTable_fits hinspection hsupports
  unfold RangeFingerprintQuery.capture
  rw [if_neg (Nat.not_lt.mpr hcolumns), if_neg (Nat.not_lt.mpr hbytes), storeRows_joinRows htable]

/-! ## Orders of rows -/

variable {sha256 : Sha256} {maximumSegmentIdBytes : ℕ} {hashes kept : List RangeHash}

/-- The aggregates of a group do not depend on the order of the rows. -/
theorem rangeFingerprint_perm (h : hashes.Perm kept) (key : ℕ × List Char) :
    rangeFingerprint maximumSegmentIdBytes hashes key =
      rangeFingerprint maximumSegmentIdBytes kept key := by
  have hrows := h.filter fun row => decide (row.key = key)
  have hvalid := hrows.filter fun row => row.rowHash.isSome
  unfold rangeFingerprint limbSum
  simp only [RangeFingerprint.mk.injEq, true_and]
  refine ⟨hrows.any_eq, hvalid.length_eq, ?_, hrows.countP_eq _, hrows.countP_eq _,
    (hvalid.map _).sum_eq, (hvalid.map _).sum_eq⟩
  exact List.map_congr_left fun index _ => (hrows.map _).sum_eq

/-- The keys of the ranges, in order. -/
theorem rangeKeys_ordered (query : RangeFingerprintQuery) :
    (query.ranges.zipIdx.map query.rangeKey).Pairwise fun a b => a.1 < b.1 := by
  rw [List.pairwise_map]
  have h := List.pairwise_lt_range' (s := 0) (n := query.ranges.length)
  rw [← List.zipIdx_map_snd 0 query.ranges, List.pairwise_map] at h
  exact h

/-- There is one fingerprint for each range, in order. -/
theorem rangeFingerprints_eq (horigin : origin = true)
    (hhashes : hashes.Perm ((query.joinRows origin table).map
      (query.encoding.rangeHash sha256))) :
    rangeFingerprints maximumSegmentIdBytes hashes =
      (query.ranges.zipIdx.map query.rangeKey).map
        (rangeFingerprint maximumSegmentIdBytes
          ((query.joinRows origin table).map (query.encoding.rangeHash sha256))) := by
  have hordered := rangeKeys_ordered query
  have hmem : ∀ key, key ∈ hashes.map RangeHash.key ↔
      key ∈ query.ranges.zipIdx.map query.rangeKey := by
    intro key
    have hkeys : (query.joinRows origin table).map
        (fun row => (query.encoding.rangeHash sha256 row).key) =
          ((leftJoin (fun (item : MssqlIntegerRangeRequest × ℕ) row => query.inRange item.1 row)
            query.ranges.zipIdx table).map (·.1)).map query.rangeKey := by
      unfold RangeFingerprintQuery.joinRows
      rw [if_pos horigin, List.map_map, List.map_map]
      refine List.map_congr_left fun item _ => ?_
      obtain ⟨item, source⟩ := item
      cases source <;> rfl
    rw [(hhashes.map RangeHash.key).mem_iff, List.map_map]
    show key ∈ (query.joinRows origin table).map
      (fun row => (query.encoding.rangeHash sha256 row).key) ↔ _
    rw [hkeys, List.mem_map, List.mem_map]
    simp only [mem_map_fst_leftJoin]
  have hgroups : groupKeys (fun a b => decide (a.1 ≤ b.1)) (hashes.map RangeHash.key) =
      query.ranges.zipIdx.map query.rangeKey := by
    refine groupKeys_eq ?_ ?_ ?_ ?_ ?_ hmem
    · intro a b c hab hbc
      simp only [decide_eq_true_eq] at hab hbc ⊢
      omega
    · intro a b
      simp only [Bool.or_eq_true, decide_eq_true_eq]
      omega
    · exact hordered.imp fun h heq => by rw [heq] at h; omega
    · exact hordered.imp fun h => decide_eq_true h.le
    · intro a ha b hb hab hba
      simp only [decide_eq_true_eq] at hab hba
      obtain ⟨⟨range, index⟩, hitem, rfl⟩ := List.mem_map.mp ha
      obtain ⟨⟨other, place⟩, hother, rfl⟩ := List.mem_map.mp hb
      have hplace : index = place := Nat.le_antisymm hab hba
      rw [List.mk_mem_zipIdx_iff_getElem?] at hitem hother
      rw [hplace, hother, Option.some.injEq] at hitem
      rw [hitem, hplace]
  unfold rangeFingerprints
  rw [hgroups]
  exact List.map_congr_left fun key _ => rangeFingerprint_perm hhashes key

theorem le_segmentIdCharacters {ranges : List MssqlIntegerRangeRequest}
    {range : MssqlIntegerRangeRequest} (h : range ∈ ranges) :
    range.segmentId.length ≤ segmentIdCharacters ranges := by
  unfold segmentIdCharacters
  exact List.le_max_of_le (List.mem_map_of_mem h) le_rfl

/-- A segment ID is not cut. -/
theorem segmentId_rangeKey {range : MssqlIntegerRangeRequest} (h : range ∈ query.ranges) (index : ℕ) :
    (rangeFingerprint (segmentIdCharacters query.ranges) hashes
      (query.rangeKey (range, index))).segmentId = asciiBytes range.segmentId.toList := by
  have hlength := le_segmentIdCharacters h
  have htext : convertVarchar (segmentIdCharacters query.ranges) range.segmentId.toList =
      range.segmentId.toList := List.take_of_length_le hlength
  unfold rangeFingerprint RangeFingerprintQuery.rangeKey
  dsimp only
  rw [htext]
  refine List.take_of_length_le ?_
  unfold asciiBytes
  rw [List.length_map]
  exact hlength

/-! ## The two queries -/

/-- Each range ends before the next ones begin. -/
def OrderedDisjoint (ranges : List MssqlIntegerRangeRequest) : Prop :=
  ranges.Pairwise fun a b => ∃ upper ∈ a.upperExclusive, upper ≤ b.lowerInclusive

/-- The source row of a row of the join. -/
def RangeSourceRow.source (row : RangeSourceRow) : Option (List MssqlCell) :=
  if row.hasData.isSome = true then some row.fields else none

/-- A key lies in one of two ranges that are in order. -/
theorem inRange_disjoint {a b : MssqlIntegerRangeRequest} {row : List MssqlCell}
    (h : ∃ upper ∈ a.upperExclusive, upper ≤ b.lowerInclusive)
    (ha : query.inRange a row = true) : query.inRange b row = false := by
  obtain ⟨upper, hupper, hle⟩ := h
  rw [Option.mem_def] at hupper
  by_contra hb
  rw [Bool.not_eq_false] at hb
  unfold RangeFingerprintQuery.inRange at ha hb
  simp only [Bool.and_eq_true, Option.any_eq_true, decide_eq_true_eq] at ha hb
  obtain ⟨-, key, hkey, -, hlt⟩ := ha
  obtain ⟨-, other, hother, hlow, -⟩ := hb
  rw [hupper] at hlt
  simp only [Option.all_some, decide_eq_true_eq] at hlt
  rw [hkey, Option.some.injEq] at hother
  omega

/-- The rows of the join are each row of the table that lies in a range, once. -/
theorem sources_joinRows_perm (hdisjoint : OrderedDisjoint query.ranges) :
    ((query.joinRows true table).filterMap RangeSourceRow.source).Perm
      (table.filter fun row => query.ranges.any fun range => query.inRange range row) := by
  have hsources : (query.joinRows true table).filterMap RangeSourceRow.source =
      (leftJoin (fun (item : MssqlIntegerRangeRequest × ℕ) row => query.inRange item.1 row)
        query.ranges.zipIdx table).filterMap (·.2) := by
    unfold RangeFingerprintQuery.joinRows
    rw [if_pos rfl, List.filterMap_map]
    refine List.filterMap_congr fun item _ => ?_
    obtain ⟨item, source⟩ := item
    cases source <;> rfl
  have hpairwise : query.ranges.zipIdx.Pairwise fun a b => ∀ c ∈ table,
      query.inRange a.1 c = true → query.inRange b.1 c = false := by
    have h := hdisjoint
    unfold OrderedDisjoint at h
    rw [← List.zipIdx_map_fst 0 query.ranges, List.pairwise_map] at h
    exact h.imp fun hab c _ hc => inRange_disjoint hab hc
  rw [hsources]
  refine (matched_leftJoin_perm hpairwise).trans (List.Perm.of_eq ?_)
  refine List.filter_congr fun row _ => ?_
  conv_rhs => rw [← List.zipIdx_map_fst 0 query.ranges]
  rw [List.any_map]
  rfl

/-- What a query returns: the fingerprints of its ranges, in order. -/
theorem returns_iff {outcome : Except MssqlError (List RangeFingerprint)}
    (hrows : segmentIdCharacters query.ranges ≠ 0 →
      query.sourceRows origin table = .ok (query.joinRows origin table)) :
    query.Returns sha256 origin table outcome ↔
      outcome =
        if segmentIdCharacters query.ranges = 0 then .error .invalidLength
        else if origin = true then
          .ok ((query.ranges.zipIdx.map query.rangeKey).map
            (rangeFingerprint (segmentIdCharacters query.ranges)
              ((query.joinRows origin table).map (query.encoding.rangeHash sha256))))
        else .ok [] := by
  unfold RangeFingerprintQuery.Returns
  by_cases hzero : segmentIdCharacters query.ranges = 0
  · unfold RangeFingerprintQuery.sourceRows
    rw [if_pos hzero, if_pos hzero]
  · rw [hrows hzero, if_neg hzero]
    have hresult : ∀ kept hashes, List.Perm kept (query.joinRows origin table) →
        hashes.Perm (kept.map (query.encoding.rangeHash sha256)) →
          rangeFingerprints (segmentIdCharacters query.ranges) hashes =
            if origin = true then
              (query.ranges.zipIdx.map query.rangeKey).map
                (rangeFingerprint (segmentIdCharacters query.ranges)
                  ((query.joinRows origin table).map (query.encoding.rangeHash sha256)))
            else [] := by
      intro kept hashes hkept hhashes
      have hperm := hhashes.trans (hkept.map _)
      split
      · rename_i horigin
        exact rangeFingerprints_eq horigin hperm
      · rename_i horigin
        have hempty : query.joinRows origin table = [] := if_neg horigin
        rw [hempty, List.map_nil] at hperm
        rw [hperm.eq_nil]
        simp [rangeFingerprints, groupKeys]
    constructor
    · intro h
      obtain ⟨kept, hashes, hkept, hhashes, rfl⟩ := h
      rw [hresult kept hashes hkept hhashes]
      split <;> rfl
    · intro h
      refine ⟨_, _, List.Perm.refl _, List.Perm.refl _, ?_⟩
      rw [hresult _ _ (List.Perm.refl _) (List.Perm.refl _), h]
      split <;> rfl

section Law

variable (sha256 : Sha256) (functions : MssqlTextFunctions) (schema : CanonicalSchema)
  (inspection : MssqlInspectedRelation) (keyFieldIndex : ℕ) (scope : Option MssqlScopePredicate)
  (ranges : List MssqlIntegerRangeRequest) (maxEncodedEnvelopeBytes : ℕ)

/-- The staged query is the direct one over a captured table, of a valid inspection. -/
theorem buildMaterialized_eq_ok {staged : RangeFingerprintQuery}
    (h : buildMssqlMaterializedIntegerRangeFingerprintQuery sha256 functions schema inspection
      keyFieldIndex scope ranges maxEncodedEnvelopeBytes = .ok staged) :
    validateMssqlInspection schema inspection = .ok () ∧ staged.staged = true ∧
      staged.inspection = inspection ∧ staged.ranges = ranges ∧
        buildMssqlIntegerRangeFingerprintQuery sha256 functions schema inspection keyFieldIndex
          scope ranges maxEncodedEnvelopeBytes = .ok { staged with staged := false } := by
  unfold buildMssqlMaterializedIntegerRangeFingerprintQuery buildQuery at h
  obtain ⟨hinputs, h⟩ := bind_unit_eq_ok.mp h
  obtain ⟨keyField, hkey, h⟩ := bind_eq_ok.mp h
  obtain ⟨hranges, h⟩ := bind_unit_eq_ok.mp h
  obtain ⟨encoding, hencoding, h⟩ := bind_eq_ok.mp h
  obtain ⟨filter, hfilter, h⟩ := bind_eq_ok.mp h
  rw [Except.ok.injEq] at h
  subst h
  refine ⟨(bind_unit_eq_ok.mp hinputs).1, rfl, rfl, rfl, ?_⟩
  unfold buildMssqlIntegerRangeFingerprintQuery buildQuery
  rw [hinputs]
  refine bind_unit_eq_ok.mpr ⟨rfl, bind_eq_ok.mpr ⟨keyField, hkey, ?_⟩⟩
  refine bind_unit_eq_ok.mpr ⟨hranges, bind_eq_ok.mpr ⟨encoding, hencoding, ?_⟩⟩
  exact bind_eq_ok.mpr ⟨filter, hfilter, rfl⟩

/-- Both kinds of query are computed from the rows of the join. -/
theorem sourceRows_eq_joinRows {query : RangeFingerprintQuery} {origin : Bool}
    {table : List (List MssqlCell)}
    (hcapture : query.staged = true →
      query.capture origin table = .ok (query.joinRows origin table))
    (hzero : segmentIdCharacters query.ranges ≠ 0) :
    query.sourceRows origin table = .ok (query.joinRows origin table) := by
  unfold RangeFingerprintQuery.sourceRows
  rw [if_neg hzero]
  split
  · rename_i hstaged
    exact hcapture hstaged
  · rfl

/-- What the chosen query returns does not show which one was chosen. -/
theorem chosen_returns_iff {chosen : RangeFingerprintQuery}
    (hchosen : chooseIntegerRangeFingerprintQuery sha256 functions schema inspection keyFieldIndex
      scope ranges maxEncodedEnvelopeBytes = .ok chosen) :
    ∃ direct, buildMssqlIntegerRangeFingerprintQuery sha256 functions schema inspection
        keyFieldIndex scope ranges maxEncodedEnvelopeBytes = .ok direct ∧
      ∀ origin table outcome, (∀ row ∈ table, RowHolds inspection row) →
        (chosen.Returns sha256 origin table outcome ↔
          direct.Returns sha256 origin table outcome) := by
  unfold chooseIntegerRangeFingerprintQuery at hchosen
  obtain ⟨-, hchosen⟩ := bind_unit_eq_ok.mp hchosen
  obtain ⟨-, -, hchosen⟩ := bind_eq_ok.mp hchosen
  obtain ⟨-, hchosen⟩ := bind_unit_eq_ok.mp hchosen
  split at hchosen
  · exact ⟨chosen, hchosen, fun _ _ _ _ => Iff.rfl⟩
  · rename_i hsupports
    rw [Bool.not_eq_false] at hsupports
    obtain ⟨hinspection, -, rfl, rfl, hdirect⟩ := buildMaterialized_eq_ok sha256 functions
      schema inspection keyFieldIndex scope ranges maxEncodedEnvelopeBytes hchosen
    refine ⟨_, hdirect, fun origin table outcome htable => ?_⟩
    rw [returns_iff (sourceRows_eq_joinRows fun _ => capture_eq_ok hinspection hsupports htable),
      returns_iff (sourceRows_eq_joinRows fun h => Bool.noConfusion h)]
    rfl

/-- Where the schema supports staging, the staged and the direct query return one
and the same outcome on every table and in whatever order rows come: the
fingerprints of the ranges, in order, or the error of the longest segment ID being
empty. The capture keeps the joined rows as they are, and of ranges that are
ordered and disjoint each row in a range once. -/
theorem staged_direct_agree {staged : RangeFingerprintQuery}
    (hsupports : supportsFixedWidthIntegerRangeStaging schema inspection = true)
    (hstaged : buildMssqlMaterializedIntegerRangeFingerprintQuery sha256 functions schema
      inspection keyFieldIndex scope ranges maxEncodedEnvelopeBytes = .ok staged) :
    ∃ direct, buildMssqlIntegerRangeFingerprintQuery sha256 functions schema inspection
        keyFieldIndex scope ranges maxEncodedEnvelopeBytes = .ok direct ∧
      ∀ origin table, (∀ row ∈ table, RowHolds inspection row) →
        (∃ outcome, ∀ other,
          (staged.Returns sha256 origin table other ↔ other = outcome) ∧
            (direct.Returns sha256 origin table other ↔ other = outcome)) ∧
        (∀ results, direct.Returns sha256 true table (.ok results) →
          results.map (·.segmentId) = ranges.map fun range => asciiBytes range.segmentId.toList) ∧
        staged.capture origin table = .ok (direct.joinRows origin table) ∧
        (OrderedDisjoint ranges →
          ((direct.joinRows true table).filterMap RangeSourceRow.source).Perm
            (table.filter fun row => ranges.any fun range => direct.inRange range row)) := by
  obtain ⟨hinspection, -, rfl, rfl, hdirect⟩ := buildMaterialized_eq_ok sha256 functions schema
    inspection keyFieldIndex scope ranges maxEncodedEnvelopeBytes hstaged
  refine ⟨_, hdirect, ?_⟩
  intro origin table htable
  have hcapture : ∀ origin, staged.capture origin table = .ok (staged.joinRows origin table) :=
    fun origin => capture_eq_ok hinspection hsupports htable
  have hstagedRows := @sourceRows_eq_joinRows staged origin table fun _ => hcapture origin
  have hdirectRows := fun origin => @sourceRows_eq_joinRows { staged with staged := false } origin
    table fun h => Bool.noConfusion h
  refine ⟨⟨_, fun other => ⟨returns_iff hstagedRows, returns_iff (hdirectRows origin)⟩⟩, ?_,
    hcapture origin, fun hdisjoint => sources_joinRows_perm hdisjoint⟩
  intro results hresults
  rw [returns_iff (hdirectRows true)] at hresults
  split at hresults
  · cases hresults
  · rw [if_pos rfl, Except.ok.injEq] at hresults
    rw [hresults, List.map_map, List.map_map]
    conv_rhs => rw [← List.zipIdx_map_fst 0 staged.ranges, List.map_map]
    refine List.map_congr_left fun item hitem => ?_
    obtain ⟨range, index⟩ := item
    have hrange : range ∈ staged.ranges :=
      List.mem_of_getElem? (List.mk_mem_zipIdx_iff_getElem?.mp hitem)
    exact segmentId_rangeKey hrange index

end Law

/-! ## Two ranges -/

/-- Texts of ASCII characters. -/
def asciiFunctions : MssqlTextFunctions where
  unicodeOfVarchar _ bytes := bytes.map fun byte => UInt16.ofNat byte.toNat
  varcharOfUnicode _ units := units.map fun unit => UInt8.ofNat unit.toNat
  unicodeOfUtf8 bytes := bytes.map fun byte => UInt16.ofNat byte.toNat
  utf8OfUnicode units := units.map fun unit => UInt8.ofNat unit.toNat

/-- A key and an amount. -/
def orderSchema : CanonicalSchema where
  protocol := protocolName
  fields :=
    [⟨"id", .int64, false, .none, .none, FieldParameters.fit_int64⟩,
     ⟨"amount", .decimal, true, .decimal ⟨9, 1, by omega, by omega, by omega⟩, .none, rfl⟩]
  protocol_eq := rfl
  count_le := by decide

def orderInspection : MssqlInspectedRelation where
  bindings :=
    [⟨"id", 1, "Id", false, ⟨"bigint", 127, 127, 8, 19, 0, none, by decide, by omega, by omega⟩⟩,
     ⟨"amount", 2, "Amount", true,
       ⟨"decimal", 106, 106, 5, 9, 2, none, by decide, by omega, by omega⟩⟩]
  columnIds_nodup := by decide
  columnNames_nodup := by decide

def orderRanges : List MssqlIntegerRangeRequest :=
  [⟨"first", 0, some 10, by decide, by decide, by decide, by decide⟩,
   ⟨"rest", 10, none, by decide, by decide, by decide, by decide⟩]

/-- An amount that rounds, one that is NULL and a key below the ranges. -/
def orderTable : List (List MssqlCell) :=
  [[some (.number 3), some (.number (1 / 4))], [some (.number 12), none],
   [some (.number (-1)), some (.number 2)]]

theorem cellHolds_number {binding : MssqlFieldBinding} {numericType : MssqlNumericType} {q : ℚ}
    (htype : binding.physical.numericType? = some numericType) (hq : numericType.Holds q) :
    CellHolds binding (some (.number q)) := by
  intro value hvalue
  obtain rfl : MssqlValue.number q = value := Option.some.inj hvalue
  exact ⟨numericType, htype, hq⟩

theorem orderTable_holds : ∀ row ∈ orderTable, RowHolds orderInspection row := by
  intro row hrow
  simp only [orderTable, List.mem_cons, List.not_mem_nil, or_false] at hrow
  rcases hrow with rfl | rfl | rfl
  · exact .cons (cellHolds_number rfl ⟨3, by norm_num, by decide, by decide⟩)
      (.cons (cellHolds_number rfl ⟨25, by norm_num, by decide⟩) .nil)
  · refine .cons (cellHolds_number rfl ⟨12, by norm_num, by decide, by decide⟩) (.cons ?_ .nil)
    intro value hvalue
    cases hvalue
  · exact .cons (cellHolds_number rfl ⟨-1, by norm_num, by decide, by decide⟩)
      (.cons (cellHolds_number rfl ⟨200, by norm_num, by decide⟩) .nil)

theorem staged_direct_agree_orders :
    ∃ staged direct,
      buildMssqlMaterializedIntegerRangeFingerprintQuery zeroDigest asciiFunctions orderSchema
        orderInspection 0 none orderRanges 4096 = .ok staged ∧
      buildMssqlIntegerRangeFingerprintQuery zeroDigest asciiFunctions orderSchema
        orderInspection 0 none orderRanges 4096 = .ok direct ∧
      ∃ outcome, staged.Returns zeroDigest true orderTable outcome ∧
        direct.Returns zeroDigest true orderTable outcome := by
  obtain ⟨staged, hstaged⟩ : ∃ staged,
      buildMssqlMaterializedIntegerRangeFingerprintQuery zeroDigest asciiFunctions orderSchema
        orderInspection 0 none orderRanges 4096 = .ok staged := ⟨_, rfl⟩
  obtain ⟨direct, hdirect, hagree⟩ := staged_direct_agree zeroDigest asciiFunctions orderSchema
    orderInspection 0 none orderRanges 4096 (by decide) hstaged
  obtain ⟨⟨outcome, houtcome⟩, -⟩ := hagree true orderTable orderTable_holds
  exact ⟨staged, direct, hstaged, hdirect, outcome, (houtcome outcome).1.mpr rfl,
    (houtcome outcome).2.mpr rfl⟩

end ForensicData.SqlServer
