/-
ForensicData.Comparison.FrontierCodecTheorems — decoding inverts writing.

What the reader makes of a loaded value is the frontier that the value denotes
(`frontierFromValue_eq_ok`), so decoding inverts writing and accepts nothing but
canonical bytes (`frontier_codec_roundTrip`). A number that the interpreter does
not write has no bytes at all.
-/
import ForensicData.Comparison.FrontierCodec

namespace ForensicData.Comparison

open ForensicData.Canonical
open ForensicData.Contracts
open ForensicData.Lib
open ForensicData.Result

/-! ## What the readers accept -/

section Reading

variable {value : PyValue} {members : List (Text × PyValue)} {context : String}

theorem requireJsonObject_eq_ok :
    requireJsonObject value context = .ok members ↔ value = .dict members := by
  cases value <;> simp [requireJsonObject, raiseValueError]

theorem requireJsonArray_eq_ok {values : List PyValue} :
    requireJsonArray value context = .ok values ↔ value = .list values := by
  cases value <;> simp [requireJsonArray, raiseValueError]

theorem requireJsonInteger_eq_ok {n : Int} :
    requireJsonInteger value context = .ok n ↔ value = .int n := by
  cases value <;> simp [requireJsonInteger, raiseValueError]

theorem requireJsonString_eq_ok {text : Text} :
    requireJsonString value context = .ok text ↔ value = .str text := by
  cases value <;> simp [requireJsonString, raiseValueError]

theorem refuseKeys_eq_ok {names : List String} {u : Unit} :
    refuseKeys members names context = .ok u ↔ PyValue.HasKeys members names := by
  rw [refuseKeys, refuseIf_eq_ok, not_not]

theorem optionalJsonInteger_eq_ok {n : Option Int} :
    optionalJsonInteger value context = .ok n ↔ value.Denotes (integerOrNull n) := by
  cases n with
  | none =>
    rw [integerOrNull, PyValue.denotes_null_iff]
    cases value <;>
      simp [optionalJsonInteger, requireJsonInteger, raiseValueError, Except.map]
  | some n =>
    rw [integerOrNull, PyValue.denotes_int_iff]
    cases value <;>
      simp [optionalJsonInteger, requireJsonInteger, raiseValueError, Except.map]

theorem segmentStateOfText_eq_ok {text : Text} {state : ComparisonSegmentState} :
    segmentStateOfText text = .ok state ↔ text = Text.ofString state.text := by
  unfold segmentStateOfText
  constructor
  · intro h
    cases hfound : ComparisonSegmentState.all.find? fun state =>
        decide (Text.ofString state.text = text) with
    | none => simp [hfound, raiseValueError] at h
    | some own =>
      simp only [hfound, Option.elim_some, Except.ok.injEq] at h
      rw [← h]
      have hown := List.find?_some hfound
      exact (of_decide_eq_true hown).symm
  · rintro rfl
    cases state <;> rfl

theorem reasonCodeOfText_eq_ok {text : Text} {reason : ReasonCode} :
    reasonCodeOfText text = .ok reason ↔ text = Text.ofString reason.value := by
  unfold reasonCodeOfText
  constructor
  · intro h
    cases hfound : ReasonCode.all.find? fun reason =>
        decide (Text.ofString reason.value = text) with
    | none => simp [hfound, raiseValueError] at h
    | some own =>
      simp only [hfound, Option.elim_some, Except.ok.injEq] at h
      rw [← h]
      have hown := List.find?_some hfound
      exact (of_decide_eq_true hown).symm
  · rintro rfl
    cases reason <;> rfl

/-! ### Fingerprints -/

theorem limbIntegers_eq_ok {values : List PyValue} {limbs : List Int} :
    limbIntegers context values = .ok limbs ↔ values = limbs.map .int := by
  induction values generalizing limbs with
  | nil => cases limbs <;> simp [limbIntegers]
  | cons value values ih =>
    simp only [limbIntegers, bind_eq_ok, JsonText.map_eq_ok, requireJsonInteger_eq_ok, ih]
    cases limbs <;> simp

theorem limbSumsOfIntegers_eq_ok {count index : ℕ} {limbs : List Int} {sums : List ℕ} :
    limbSumsOfIntegers count index limbs = .ok sums ↔
      limbs = sums.map (fun n : ℕ => (n : Int)) ∧
        ∀ sum ∈ sums, sum ≤ decimal38Max ∧ sum ≤ count * uint32Max := by
  induction limbs generalizing index sums with
  | nil => cases sums <;> simp [limbSumsOfIntegers]
  | cons limb limbs ih =>
    simp only [limbSumsOfIntegers, bind_eq_ok, refuseIf_eq_ok, not_not, JsonText.map_eq_ok, ih]
    cases sums with
    | nil => simp
    | cons sum sums =>
      simp only [List.map_cons, List.cons.injEq, List.forall_mem_cons]
      constructor
      · rintro ⟨-, ⟨hlow, hhigh⟩, -, hmax, more, ⟨rfl, hall⟩, hlimb, rfl⟩
        refine ⟨⟨by omega, rfl⟩, ⟨by omega, by omega⟩, hall⟩
      · rintro ⟨⟨rfl, rfl⟩, ⟨hhigh, hmax⟩, hall⟩
        exact ⟨(), ⟨by omega, by omega⟩, (), by omega, sums, ⟨rfl, hall⟩, by omega, rfl⟩

theorem getD_ofFn (limbs : Sha256Limbs) (i : Fin 8) : (List.ofFn limbs).getD i 0 = limbs i := by
  have hi : i.val < (List.ofFn limbs).length := by
    rw [List.length_ofFn]
    exact i.isLt
  rw [List.getD_eq_getElem _ _ hi, List.getElem_ofFn]

theorem ofFn_getD {sums : List ℕ} (hlength : sums.length = 8) :
    List.ofFn (fun i : Fin 8 => sums.getD i 0) = sums := by
  apply List.ext_getElem
  · rw [List.length_ofFn, hlength]
  · intro i hleft hright
    rw [List.getElem_ofFn, List.getD_eq_getElem _ _ hright]

theorem fingerprintOfIntegers_eq_ok {count : Int} {limbs : List Int} {fingerprint : Fingerprint}
    (hlength : limbs.length = 8) :
    fingerprintOfIntegers count limbs = .ok fingerprint ↔
      count = fingerprint.count ∧
        limbs = (List.ofFn fingerprint.limbSums).map fun n : ℕ => (n : Int) := by
  simp only [fingerprintOfIntegers, bind_eq_ok, refuseIf_eq_ok, not_not, limbSumsOfIntegers_eq_ok,
    Fingerprint.make_eq_ok, Fingerprint.weight, Prod.mk.injEq]
  constructor
  · rintro ⟨-, hcount, sums, ⟨rfl, hall⟩, hweight, hsums⟩
    refine ⟨by omega, ?_⟩
    rw [List.length_map] at hlength
    rw [hsums, ofFn_getD hlength]
  · rintro ⟨rfl, rfl⟩
    have hbound := fingerprint.count_le
    refine ⟨(), ⟨by omega, by omega⟩, List.ofFn fingerprint.limbSums, ⟨rfl, ?_⟩, by simp, ?_⟩
    · intro sum hsum
      rcases List.mem_ofFn.mp hsum with ⟨i, rfl⟩
      exact ⟨fingerprint.limb_le i, by simpa using fingerprint.limb_le_count i⟩
    · funext i
      exact (getD_ofFn fingerprint.limbSums i).symm

theorem denotesItems_integers {values : List PyValue} {limbs : List Int} :
    PyValue.DenotesItems values (limbs.map .int) ↔ values = limbs.map .int := by
  induction limbs generalizing values with
  | nil => cases values <;> simp [PyValue.DenotesItems]
  | cons limb limbs ih =>
    cases values with
    | nil => simp [PyValue.DenotesItems]
    | cons value values => simp [PyValue.DenotesItems, PyValue.denotes_int_iff, ih]

theorem denotes_fingerprint_iff {fingerprint : Fingerprint}
    (honce : (members.map Prod.fst).Nodup) :
    (PyValue.dict members).Denotes (fingerprintSemanticValue fingerprint) ↔
      PyValue.HasKeys members ["count", "limb_sums"] ∧
      PyValue.item members "count" = .int fingerprint.count ∧
      PyValue.item members "limb_sums"
        = .list (((List.ofFn fingerprint.limbSums).map fun n : ℕ => (n : Int)).map .int) := by
  have hlimbs : ((List.ofFn fingerprint.limbSums).map fun limb : ℕ => Json.int limb)
      = ((List.ofFn fingerprint.limbSums).map fun n : ℕ => (n : Int)).map Json.int := by
    rw [List.map_map]
    rfl
  rw [fingerprintSemanticValue, PyValue.denotes_dict_iff honce (by simp), hlimbs]
  simp only [List.map_cons, List.map_nil, List.forall_mem_cons, List.not_mem_nil, false_implies,
    implies_true, and_true, PyValue.denotes_int_iff, PyValue.denotes_array_iff,
    denotesItems_integers, exists_eq_right]

/-- A fingerprint is read from its semantic value, and from nothing else. -/
theorem fingerprintFromSemanticValue_eq_ok {fingerprint : Fingerprint} (hkeys : value.KeysOnce) :
    fingerprintFromSemanticValue value context = .ok fingerprint ↔
      value.Denotes (fingerprintSemanticValue fingerprint) := by
  by_cases hdict : ∃ members, value = .dict members
  · rcases hdict with ⟨members, rfl⟩
    rw [denotes_fingerprint_iff hkeys.1]
    simp only [fingerprintFromSemanticValue, bind_eq_ok, requireJsonObject_eq_ok, refuseKeys_eq_ok,
      requireJsonArray_eq_ok, requireJsonInteger_eq_ok, refuseIf_eq_ok, not_not, limbIntegers_eq_ok]
    constructor
    · rintro ⟨own, hown, -, hnames, limbs, hlimbs, -, hlength, integers, rfl, count, hcount, hread⟩
      cases hown
      rw [List.length_map] at hlength
      rcases (fingerprintOfIntegers_eq_ok hlength).mp hread with ⟨rfl, rfl⟩
      exact ⟨hnames, hcount, hlimbs⟩
    · rintro ⟨hnames, hcount, hlimbs⟩
      exact ⟨members, rfl, (), hnames, _, hlimbs, (), by simp, _, rfl, _, hcount,
        (fingerprintOfIntegers_eq_ok (by simp)).mpr ⟨rfl, rfl⟩⟩
  · simp only [not_exists] at hdict
    have hnot : ¬ value.Denotes (fingerprintSemanticValue fingerprint) :=
      PyValue.not_denotes_object hdict
    simp only [fingerprintFromSemanticValue, bind_eq_ok, requireJsonObject_eq_ok, hdict, false_and,
      exists_false, hnot]

theorem optionalFingerprintFromSemanticValue_eq_ok {fingerprint : Option Fingerprint}
    (hkeys : value.KeysOnce) :
    optionalFingerprintFromSemanticValue value context = .ok fingerprint ↔
      value.Denotes (optionalFingerprintSemanticValue fingerprint) := by
  by_cases hnone : value = .none
  · rw [hnone]
    cases fingerprint with
    | none => simp [optionalFingerprintFromSemanticValue, optionalFingerprintSemanticValue,
        PyValue.Denotes]
    | some own => simp [optionalFingerprintFromSemanticValue, optionalFingerprintSemanticValue,
        fingerprintSemanticValue, PyValue.Denotes]
  · have hread : optionalFingerprintFromSemanticValue value context
        = (fingerprintFromSemanticValue value context).map some := by
      cases value <;> first | exact absurd rfl hnone | rfl
    rw [hread, JsonText.map_eq_ok]
    simp only [fingerprintFromSemanticValue_eq_ok hkeys]
    cases fingerprint with
    | none => simp [optionalFingerprintSemanticValue, PyValue.denotes_null_iff, hnone]
    | some own => simp [optionalFingerprintSemanticValue]

/-! ### Places -/

/-- The fields of a place as integers. -/
def integersOfPlace (place : SegmentPlace) : PlaceIntegers where
  segmentSequence := place.segmentSequence
  parentSegmentSequence := place.parentSegmentSequence.map fun n : ℕ => (n : Int)
  depth := place.depth
  lowerInclusive := place.lowerInclusive
  upperExclusive := place.upperExclusive

theorem requireNonnegativeInteger_eq_ok {n : Int} {m : ℕ} :
    requireNonnegativeInteger n context = .ok m ↔ n = m := by
  unfold requireNonnegativeInteger
  split
  · simp only [raiseValueError, reduceCtorEq, false_iff]
    omega
  · rw [Except.ok.injEq]
    omega

theorem optionalNonnegativeInteger_eq_ok {n : Option Int} {m : Option ℕ} :
    optionalNonnegativeInteger n context = .ok m ↔ n = m.map fun k : ℕ => (k : Int) := by
  cases n with
  | none => cases m <;> simp [optionalNonnegativeInteger]
  | some n =>
    simp only [optionalNonnegativeInteger, JsonText.map_eq_ok, requireNonnegativeInteger_eq_ok]
    cases m <;> simp

theorem placeOfIntegers_eq_ok {numbers : NumberTexts} {texts : PlaceTexts}
    {integers : PlaceIntegers} {place : SegmentPlace} :
    placeOfIntegers numbers texts integers = .ok place ↔ integers = integersOfPlace place ∧
      ∀ parent, place.parentSegmentSequence = some parent → parent < place.segmentSequence := by
  rcases integers with ⟨sequence, parent, depth, lower, upper⟩
  simp only [placeOfIntegers, bind_eq_ok, requireNonnegativeInteger_eq_ok,
    optionalNonnegativeInteger_eq_ok, refuseIf_eq_ok, pure_eq_ok, integersOfPlace,
    PlaceIntegers.mk.injEq]
  constructor
  · rintro ⟨n, rfl, m, rfl, -, hprecedes, k, rfl, rfl⟩
    refine ⟨⟨rfl, rfl, rfl, rfl, rfl⟩, fun own hown => ?_⟩
    simp only at hown
    subst hown
    simpa using hprecedes
  · rintro ⟨⟨rfl, rfl, rfl, rfl, rfl⟩, hprecedes⟩
    refine ⟨_, rfl, _, rfl, (), ?_, _, rfl, rfl⟩
    cases hparent : place.parentSegmentSequence with
    | none => simp
    | some own => simpa using hprecedes own hparent

/-- The items under the names of a place. -/
def PlaceItems (members : List (Text × PyValue)) (place : SegmentPlace) : Prop :=
  PyValue.item members "segment_sequence" = .int place.segmentSequence ∧
    (PyValue.item members "parent_segment_sequence").Denotes
      (integerOrNull (place.parentSegmentSequence.map fun n : ℕ => (n : Int))) ∧
    PyValue.item members "depth" = .int place.depth ∧
    PyValue.item members "lower_inclusive" = .int place.lowerInclusive ∧
    (PyValue.item members "upper_exclusive").Denotes (integerOrNull place.upperExclusive)

theorem placeFromItem_eq_ok {place : SegmentPlace} :
    placeFromItem members = .ok (integersOfPlace place) ↔ PlaceItems members place := by
  simp only [placeFromItem, bind_eq_ok, requireJsonInteger_eq_ok, optionalJsonInteger_eq_ok,
    pure_eq_ok, integersOfPlace, PlaceIntegers.mk.injEq, PlaceItems]
  constructor
  · rintro ⟨n, hsequence, m, hparent, k, hdepth, lower, hlower, upper, hupper, rfl, rfl, rfl, rfl,
      rfl⟩
    exact ⟨hsequence, hparent, hdepth, hlower, hupper⟩
  · rintro ⟨hsequence, hparent, hdepth, hlower, hupper⟩
    exact ⟨_, hsequence, _, hparent, _, hdepth, _, hlower, _, hupper, rfl, rfl, rfl, rfl, rfl⟩

/-! ### Segments -/

theorem denotes_segment_iff {segment : ComparisonSegmentRecord}
    (honce : (members.map Prod.fst).Nodup) :
    (PyValue.dict members).Denotes (segmentSemanticValue segment) ↔
      PyValue.HasKeys members ["depth", "lower_inclusive", "parent_segment_sequence",
        "reference_fingerprint", "segment_sequence", "state", "target_fingerprint",
        "upper_exclusive"] ∧
      PlaceItems members segment.toSegmentPlace ∧
      PyValue.item members "state" = .str (Text.ofString segment.state.text) ∧
      (PyValue.item members "reference_fingerprint").Denotes
        (fingerprintSemanticValue segment.referenceFingerprint) ∧
      (PyValue.item members "target_fingerprint").Denotes
        (fingerprintSemanticValue segment.targetFingerprint) := by
  rw [segmentSemanticValue, PyValue.denotes_dict_iff honce (by simp)]
  simp only [List.map_cons, List.map_nil, List.forall_mem_cons, List.not_mem_nil, false_implies,
    implies_true, and_true, PyValue.denotes_int_iff, PyValue.denotes_string_iff, PlaceItems]
  constructor
  · rintro ⟨hnames, hdepth, hlower, hparent, hreference, hsequence, hstate, htarget, hupper⟩
    exact ⟨hnames, ⟨hsequence, hparent, hdepth, hlower, hupper⟩, hstate, hreference, htarget⟩
  · rintro ⟨hnames, ⟨hsequence, hparent, hdepth, hlower, hupper⟩, hstate, hreference, htarget⟩
    exact ⟨hnames, hdepth, hlower, hparent, hreference, hsequence, hstate, htarget, hupper⟩

/-- A recorded segment is read from its semantic value, and from nothing else. -/
theorem comparisonSegmentFromSemanticValue_eq_ok {segment : ComparisonSegmentRecord}
    (hkeys : value.KeysOnce) :
    comparisonSegmentFromSemanticValue value = .ok segment ↔
      value.Denotes (segmentSemanticValue segment) := by
  by_cases hdict : ∃ members, value = .dict members
  · rcases hdict with ⟨members, rfl⟩
    have hreference := PyValue.keysOnce_item hkeys.2 "reference_fingerprint"
    have htarget := PyValue.keysOnce_item hkeys.2 "target_fingerprint"
    rw [denotes_segment_iff hkeys.1]
    simp only [comparisonSegmentFromSemanticValue, bind_eq_ok, requireJsonObject_eq_ok,
      refuseKeys_eq_ok, requireJsonString_eq_ok, segmentStateOfText_eq_ok,
      ComparisonSegmentRecord.make_eq_ok, placeOfIntegers_eq_ok]
    constructor
    · rintro ⟨own, hown, -, hnames, integers, hplace, text, hstate, state, rfl, reference, href,
        target, htgt, place, ⟨rfl, -⟩, rfl, rfl, rfl, rfl⟩
      cases hown
      exact ⟨hnames, placeFromItem_eq_ok.mp hplace, hstate,
        (fingerprintFromSemanticValue_eq_ok hreference).mp href,
        (fingerprintFromSemanticValue_eq_ok htarget).mp htgt⟩
    · rintro ⟨hnames, hplace, hstate, href, htgt⟩
      exact ⟨members, rfl, (), hnames, _, placeFromItem_eq_ok.mpr hplace, _, hstate, _, rfl, _,
        (fingerprintFromSemanticValue_eq_ok hreference).mpr href, _,
        (fingerprintFromSemanticValue_eq_ok htarget).mpr htgt, segment.toSegmentPlace,
        ⟨rfl, segment.placed.parent_lt⟩, rfl, rfl, rfl, rfl⟩
  · simp only [not_exists] at hdict
    have hnot : ¬ value.Denotes (segmentSemanticValue segment) := PyValue.not_denotes_object hdict
    simp only [comparisonSegmentFromSemanticValue, bind_eq_ok, requireJsonObject_eq_ok, hdict,
      false_and, exists_false, hnot]

theorem UnresolvedComparisonSegment.make_eq_ok {place : SegmentPlace} {reason : ReasonCode}
    {reference target : Option Fingerprint} {segment : UnresolvedComparisonSegment} :
    UnresolvedComparisonSegment.make place reason reference target = .ok segment ↔
      segment.toSegmentPlace = place ∧ segment.reason = reason ∧
        segment.referenceFingerprint = reference ∧ segment.targetFingerprint = target := by
  unfold UnresolvedComparisonSegment.make
  constructor
  · intro h
    split at h
    · cases h
    · split at h
      · split at h
        · cases h
          exact ⟨rfl, rfl, rfl, rfl⟩
        · cases h
      · cases h
  · rintro ⟨rfl, rfl, rfl, rfl⟩
    split
    · rename_i refusal hrefusal
      have hok : segment.toSegmentPlace.check unresolvedSegmentTexts = .ok () :=
        SegmentPlace.check_eq_ok.mpr segment.placed
      simp [hok] at hrefusal
    · rw [dif_pos segment.both_sides, dif_pos segment.differs]

theorem denotes_unresolved_iff {segment : UnresolvedComparisonSegment}
    (honce : (members.map Prod.fst).Nodup) :
    (PyValue.dict members).Denotes (unresolvedSemanticValue segment) ↔
      PyValue.HasKeys members ["depth", "lower_inclusive", "parent_segment_sequence", "reason",
        "reference_fingerprint", "segment_sequence", "target_fingerprint", "upper_exclusive"] ∧
      PlaceItems members segment.toSegmentPlace ∧
      PyValue.item members "reason" = .str (Text.ofString segment.reason.value) ∧
      (PyValue.item members "reference_fingerprint").Denotes
        (optionalFingerprintSemanticValue segment.referenceFingerprint) ∧
      (PyValue.item members "target_fingerprint").Denotes
        (optionalFingerprintSemanticValue segment.targetFingerprint) := by
  rw [unresolvedSemanticValue, PyValue.denotes_dict_iff honce (by simp)]
  simp only [List.map_cons, List.map_nil, List.forall_mem_cons, List.not_mem_nil, false_implies,
    implies_true, and_true, PyValue.denotes_int_iff, PyValue.denotes_string_iff, PlaceItems]
  constructor
  · rintro ⟨hnames, hdepth, hlower, hparent, hreason, hreference, hsequence, htarget, hupper⟩
    exact ⟨hnames, ⟨hsequence, hparent, hdepth, hlower, hupper⟩, hreason, hreference, htarget⟩
  · rintro ⟨hnames, ⟨hsequence, hparent, hdepth, hlower, hupper⟩, hreason, hreference, htarget⟩
    exact ⟨hnames, hdepth, hlower, hparent, hreason, hreference, hsequence, htarget, hupper⟩

/-- An unresolved segment is read from its semantic value, and from nothing else. -/
theorem unresolvedSegmentFromSemanticValue_eq_ok {segment : UnresolvedComparisonSegment}
    (hkeys : value.KeysOnce) :
    unresolvedSegmentFromSemanticValue value = .ok segment ↔
      value.Denotes (unresolvedSemanticValue segment) := by
  by_cases hdict : ∃ members, value = .dict members
  · rcases hdict with ⟨members, rfl⟩
    have hreference := PyValue.keysOnce_item hkeys.2 "reference_fingerprint"
    have htarget := PyValue.keysOnce_item hkeys.2 "target_fingerprint"
    rw [denotes_unresolved_iff hkeys.1]
    simp only [unresolvedSegmentFromSemanticValue, bind_eq_ok, requireJsonObject_eq_ok,
      refuseKeys_eq_ok, requireJsonString_eq_ok, reasonCodeOfText_eq_ok,
      UnresolvedComparisonSegment.make_eq_ok, placeOfIntegers_eq_ok]
    constructor
    · rintro ⟨own, hown, -, hnames, integers, hplace, text, hreason, reason, rfl, reference, href,
        target, htgt, place, ⟨rfl, -⟩, rfl, rfl, rfl, rfl⟩
      cases hown
      exact ⟨hnames, placeFromItem_eq_ok.mp hplace, hreason,
        (optionalFingerprintFromSemanticValue_eq_ok hreference).mp href,
        (optionalFingerprintFromSemanticValue_eq_ok htarget).mp htgt⟩
    · rintro ⟨hnames, hplace, hreason, href, htgt⟩
      exact ⟨members, rfl, (), hnames, _, placeFromItem_eq_ok.mpr hplace, _, hreason, _, rfl, _,
        (optionalFingerprintFromSemanticValue_eq_ok hreference).mpr href, _,
        (optionalFingerprintFromSemanticValue_eq_ok htarget).mpr htgt, segment.toSegmentPlace,
        ⟨rfl, segment.placed.parent_lt⟩, rfl, rfl, rfl, rfl⟩
  · simp only [not_exists] at hdict
    have hnot : ¬ value.Denotes (unresolvedSemanticValue segment) :=
      PyValue.not_denotes_object hdict
    simp only [unresolvedSegmentFromSemanticValue, bind_eq_ok, requireJsonObject_eq_ok, hdict,
      false_and, exists_false, hnot]

/-! ### Frontiers -/

theorem readEach_eq_ok {α : Type} {read : PyValue → Except Refusal α} {write : α → Json}
    (hread : ∀ value item, value.KeysOnce → (read value = .ok item ↔ value.Denotes (write item)))
    {values : List PyValue} {items : List α} (hkeys : PyValue.KeysOnceItems values) :
    readEach read values = .ok items ↔ PyValue.DenotesItems values (items.map write) := by
  induction values generalizing items with
  | nil => cases items <;> simp [readEach, PyValue.DenotesItems]
  | cons value values ih =>
    simp only [readEach, bind_eq_ok, JsonText.map_eq_ok, hread value _ hkeys.1, ih hkeys.2]
    cases items with
    | nil => simp [PyValue.DenotesItems]
    | cons item items => simp [PyValue.DenotesItems]

theorem PartialComparisonFrontier.make_eq_ok {topology : List ComparisonSegmentRecord}
    {unresolved : List UnresolvedComparisonSegment} {frontier : PartialComparisonFrontier} :
    PartialComparisonFrontier.make topology unresolved = .ok frontier ↔
      topology = frontier.topology ∧ unresolved = frontier.unresolved := by
  have htopology := frontier.topology_sorted
  have hunresolved := frontier.unresolved_sorted
  have hdisjoint := frontier.disjoint
  unfold PartialComparisonFrontier.make
  constructor
  · intro h
    split_ifs at h <;> first | cases h; exact ⟨rfl, rfl⟩ | cases h
  · rintro ⟨rfl, rfl⟩
    have honce : ∀ {sequences : List ℕ}, sequences.Pairwise (· < ·) → sequences.Nodup :=
      fun hsorted => hsorted.imp fun hlt => Nat.ne_of_lt hlt
    rw [if_neg (not_not.mpr (honce htopology)), if_neg (not_not.mpr (honce hunresolved)),
      dif_pos hdisjoint, dif_pos htopology, dif_pos hunresolved]

/-- A frontier is read from its semantic value, and from nothing else. -/
theorem frontierFromValue_eq_ok {frontier : PartialComparisonFrontier} (hkeys : value.KeysOnce) :
    frontierFromValue value = .ok frontier ↔ value.Denotes (frontierSemanticValue frontier) := by
  by_cases hdict : ∃ members, value = .dict members
  · rcases hdict with ⟨members, rfl⟩
    have htopology := PyValue.keysOnce_item hkeys.2 "topology"
    have hunresolved := PyValue.keysOnce_item hkeys.2 "unresolved"
    rw [frontierSemanticValue, PyValue.denotes_dict_iff hkeys.1 (by simp)]
    simp only [List.map_cons, List.map_nil, List.forall_mem_cons, List.not_mem_nil, false_implies,
      implies_true, and_true, PyValue.denotes_array_iff, frontierFromValue, bind_eq_ok,
      requireJsonObject_eq_ok, refuseKeys_eq_ok, requireJsonArray_eq_ok,
      PartialComparisonFrontier.make_eq_ok]
    constructor
    · rintro ⟨own, hown, -, hnames, segments, hsegments, left, hleft, topology, hread, unresolved,
        hread', rfl, rfl⟩
      cases hown
      rw [hsegments] at htopology
      rw [hleft] at hunresolved
      exact ⟨hnames, ⟨segments, hsegments, (readEach_eq_ok
        (fun _ _ => comparisonSegmentFromSemanticValue_eq_ok) htopology).mp hread⟩,
        ⟨left, hleft, (readEach_eq_ok
          (fun _ _ => unresolvedSegmentFromSemanticValue_eq_ok) hunresolved).mp hread'⟩⟩
    · rintro ⟨hnames, ⟨segments, hsegments, hdenotes⟩, left, hleft, hdenotes'⟩
      rw [hsegments] at htopology
      rw [hleft] at hunresolved
      exact ⟨members, rfl, (), hnames, segments, hsegments, left, hleft, _, (readEach_eq_ok
        (fun _ _ => comparisonSegmentFromSemanticValue_eq_ok) htopology).mpr hdenotes, _,
        (readEach_eq_ok
          (fun _ _ => unresolvedSegmentFromSemanticValue_eq_ok) hunresolved).mpr hdenotes', rfl, rfl⟩
  · simp only [not_exists] at hdict
    have hnot : ¬ value.Denotes (frontierSemanticValue frontier) :=
      PyValue.not_denotes_object hdict
    simp only [frontierFromValue, bind_eq_ok, requireJsonObject_eq_ok, hdict, false_and,
      exists_false, hnot]

end Reading

/-! ## Round trip -/

theorem encodeText_eq_ok {text : Text} {payload : Bytes} :
    encodeText text = .ok payload ↔ ∃ value, text = Text.ofString value ∧
      payload = utf8Encode value := by
  rw [encodeText, mapError_eq_ok, JsonText.map_eq_ok]
  simp only [Text.readString_eq_ok, @eq_comm _ payload]

theorem canonicalPartialComparisonFrontierBytes_eq_ok {frontier : PartialComparisonFrontier}
    {payload : Bytes} :
    canonicalPartialComparisonFrontierBytes frontier = .ok payload ↔
      (frontierSemanticValue frontier).withinDigits = true ∧ ∃ value : String,
        Text.ofChars (frontierSemanticValue frontier).sorted.render = Text.ofString value ∧
        payload = utf8Encode value := by
  simp only [canonicalPartialComparisonFrontierBytes, Semantics.dumps, bind_eq_ok, refuseIf_eq_ok,
    pure_eq_ok, Bool.not_eq_false, encodeText_eq_ok]
  constructor
  · rintro ⟨text, ⟨-, hdigits, rfl⟩, hvalue⟩
    exact ⟨hdigits, hvalue⟩
  · rintro ⟨hdigits, hvalue⟩
    exact ⟨_, ⟨(), hdigits, rfl⟩, hvalue⟩

theorem namesOnce_integerOrNull (n : Option Int) : (integerOrNull n).NamesOnce := by
  cases n <;> trivial

theorem namesOnce_fingerprint (fingerprint : Fingerprint) :
    (fingerprintSemanticValue fingerprint).NamesOnce := by
  have hlimbs : ∀ limbs : List ℕ,
      Json.NamesOnceItems (limbs.map fun limb : ℕ => Json.int limb) := by
    intro limbs
    rw [Json.namesOnceItems_iff]
    intro item hitem
    rcases List.mem_map.mp hitem with ⟨limb, -, rfl⟩
    trivial
  simp only [fingerprintSemanticValue, Json.NamesOnce, Json.NamesOnceMembers, hlimbs]
  simp

theorem namesOnce_optionalFingerprint (fingerprint : Option Fingerprint) :
    (optionalFingerprintSemanticValue fingerprint).NamesOnce := by
  cases fingerprint with
  | none => trivial
  | some own => exact namesOnce_fingerprint own

theorem namesOnce_frontier (frontier : PartialComparisonFrontier) :
    (frontierSemanticValue frontier).NamesOnce := by
  have htopology : Json.NamesOnceItems (frontier.topology.map segmentSemanticValue) := by
    rw [Json.namesOnceItems_iff]
    intro item hitem
    rcases List.mem_map.mp hitem with ⟨segment, -, rfl⟩
    simp [segmentSemanticValue, Json.NamesOnce, Json.NamesOnceMembers, namesOnce_integerOrNull,
      namesOnce_fingerprint]
  have hunresolved : Json.NamesOnceItems (frontier.unresolved.map unresolvedSemanticValue) := by
    rw [Json.namesOnceItems_iff]
    intro item hitem
    rcases List.mem_map.mp hitem with ⟨segment, -, rfl⟩
    simp [unresolvedSemanticValue, Json.NamesOnce, Json.NamesOnceMembers, namesOnce_integerOrNull,
      namesOnce_optionalFingerprint]
  simp [frontierSemanticValue, Json.NamesOnce, Json.NamesOnceMembers, htopology, hunresolved]

/-- The bytes of a frontier are decoded to it. -/
theorem partialComparisonFrontierFromCanonicalBytes_bytes {frontier : PartialComparisonFrontier}
    {payload : Bytes} (h : canonicalPartialComparisonFrontierBytes frontier = .ok payload) :
    partialComparisonFrontierFromCanonicalBytes payload = .ok frontier := by
  rcases canonicalPartialComparisonFrontierBytes_eq_ok.mp h with ⟨hdigits, value, htext, rfl⟩
  have hdecode : utf8Decode (utf8Encode value) = some value := utf8Decode_eq_some.mpr rfl
  have hloads : JsonText.loads (loadHooks Semantics.loadFaults) (Text.ofString value)
      = .ok (PyValue.ofJson (frontierSemanticValue frontier).sorted) := by
    rw [← htext]
    exact loads_render _ (Json.namesOnce_sorted _ (namesOnce_frontier frontier))
      (Json.withinDigits_sorted _ hdigits)
  have hread : frontierFromValue (PyValue.ofJson (frontierSemanticValue frontier).sorted)
      = .ok frontier :=
    (frontierFromValue_eq_ok (loads_keysOnce hloads)).mpr (PyValue.denotes_sorted _)
  simp only [partialComparisonFrontierFromCanonicalBytes, hdecode, bind_eq_ok,
    Semantics.semanticValueFromJson_eq_ok, refuseIf_eq_ok, not_not, pure_eq_ok]
  exact ⟨_, ⟨hloads, _, PyValue.listed_ofJson _⟩, frontier, hread, _, h, (), rfl, rfl⟩

theorem partialComparisonFrontierFromCanonicalBytes_eq_ok {frontier : PartialComparisonFrontier}
    {payload : Bytes} :
    partialComparisonFrontierFromCanonicalBytes payload = .ok frontier ↔
      canonicalPartialComparisonFrontierBytes frontier = .ok payload := by
  constructor
  · intro h
    unfold partialComparisonFrontierFromCanonicalBytes at h
    split at h
    · cases h
    · simp only [bind_eq_ok, refuseIf_eq_ok, not_not, pure_eq_ok] at h
      rcases h with ⟨value, -, own, -, canonical, hcanonical, -, rfl, rfl⟩
      exact hcanonical
  · exact partialComparisonFrontierFromCanonicalBytes_bytes

/-! ## The numbers of a frontier -/

theorem withinDigits_int {n : Int} :
    (Json.int n).withinDigits = true ↔ n.natAbs < 10 ^ intMaxStrDigits := by
  rw [Json.withinDigits, decide_eq_true_eq]
  exact Nat.length_toDigits_le_iff (by decide) (by decide)

theorem withinDigits_natInt {n : ℕ} :
    (Json.int (n : Int)).withinDigits = true ↔ n < 10 ^ intMaxStrDigits := by
  rw [withinDigits_int, Int.natAbs_natCast]

/-- The numbers of a place that no record bounds have no more digits than the
interpreter writes. -/
def SegmentPlace.Writable (place : SegmentPlace) : Prop :=
  place.segmentSequence < 10 ^ intMaxStrDigits ∧ place.depth < 10 ^ intMaxStrDigits

def PartialComparisonFrontier.Writable (frontier : PartialComparisonFrontier) : Prop :=
  (∀ segment ∈ frontier.topology, segment.toSegmentPlace.Writable) ∧
    ∀ segment ∈ frontier.unresolved, segment.toSegmentPlace.Writable

theorem decimal38Max_lt_digits : decimal38Max < 10 ^ intMaxStrDigits := by
  have hle : 10 ^ 38 ≤ 10 ^ intMaxStrDigits := Nat.pow_le_pow_right (by decide) (by decide)
  have hlt : decimal38Max < 10 ^ 38 := by decide
  omega

theorem withinDigits_int64 {n : Int} (h : IsInt64 n) : (Json.int n).withinDigits = true := by
  have hdigits := decimal38Max_lt_digits
  have hmax : 2 ^ 63 ≤ decimal38Max := by decide
  rw [withinDigits_int]
  unfold IsInt64 int64Min int64Max at h
  omega

theorem withinDigits_fingerprint (fingerprint : Fingerprint) :
    (fingerprintSemanticValue fingerprint).withinDigits = true := by
  have hdigits := decimal38Max_lt_digits
  have hcount : (Json.int (fingerprint.count : Int)).withinDigits = true := by
    have hle := fingerprint.count_le
    have hmax : int64Max ≤ decimal38Max := by decide
    rw [withinDigits_natInt]
    omega
  have hlimbs : Json.withinDigitsItems
      ((List.ofFn fingerprint.limbSums).map fun limb : ℕ => Json.int limb) = true := by
    rw [Json.withinDigitsItems_iff]
    intro item hitem
    rcases List.mem_map.mp hitem with ⟨limb, hlimb, rfl⟩
    rcases (List.mem_ofFn' _ _).mp hlimb with ⟨i, rfl⟩
    have hle := fingerprint.limb_le i
    rw [withinDigits_natInt]
    omega
  rw [fingerprintSemanticValue, Json.withinDigits, Json.withinDigitsMembers, hcount,
    Json.withinDigitsMembers, Json.withinDigits, hlimbs]
  rfl

theorem withinDigits_optionalFingerprint (fingerprint : Option Fingerprint) :
    (optionalFingerprintSemanticValue fingerprint).withinDigits = true := by
  cases fingerprint with
  | none => rfl
  | some own => exact withinDigits_fingerprint own

/-- The bounds and the parent of a well placed range are bounded by its record. -/
theorem SegmentPlace.WellPlaced.withinDigits {place : SegmentPlace} (h : place.WellPlaced)
    (hsequence : place.segmentSequence < 10 ^ intMaxStrDigits) :
    (Json.int place.lowerInclusive).withinDigits = true ∧
      (integerOrNull place.upperExclusive).withinDigits = true ∧
      (integerOrNull (place.parentSegmentSequence.map fun n : ℕ => (n : Int))).withinDigits
        = true := by
  have hparent : (integerOrNull (place.parentSegmentSequence.map fun n : ℕ => (n : Int))).withinDigits
      = true := by
    cases hcase : place.parentSegmentSequence with
    | none => rfl
    | some parent =>
      have hlt := h.parent_lt parent hcase
      show (Json.int (parent : Int)).withinDigits = true
      rw [withinDigits_natInt]
      omega
  have hupper : (integerOrNull place.upperExclusive).withinDigits = true := by
    cases hcase : place.upperExclusive with
    | none => rfl
    | some upper => exact withinDigits_int64 (h.upper_int64 upper hcase).1
  exact ⟨withinDigits_int64 h.lower_int64, hupper, hparent⟩

theorem withinDigits_segment (segment : ComparisonSegmentRecord) :
    (segmentSemanticValue segment).withinDigits = true ↔ segment.toSegmentPlace.Writable := by
  have hreference := withinDigits_fingerprint segment.referenceFingerprint
  have htarget := withinDigits_fingerprint segment.targetFingerprint
  constructor
  · intro h
    simp only [segmentSemanticValue, Json.withinDigits.eq_3, Json.withinDigitsMembers,
      Bool.and_eq_true, withinDigits_natInt] at h
    exact ⟨h.2.2.2.2.1, h.1⟩
  · rintro ⟨hsequence, hdepth⟩
    rcases segment.placed.withinDigits hsequence with ⟨hlower, hupper, hparent⟩
    simp only [segmentSemanticValue, Json.withinDigits.eq_3, Json.withinDigitsMembers,
      Bool.and_eq_true, withinDigits_natInt]
    exact ⟨hdepth, hlower, hparent, hreference, hsequence, rfl, htarget, hupper, trivial⟩

theorem withinDigits_unresolved (segment : UnresolvedComparisonSegment) :
    (unresolvedSemanticValue segment).withinDigits = true ↔ segment.toSegmentPlace.Writable := by
  have hreference := withinDigits_optionalFingerprint segment.referenceFingerprint
  have htarget := withinDigits_optionalFingerprint segment.targetFingerprint
  constructor
  · intro h
    simp only [unresolvedSemanticValue, Json.withinDigits.eq_3, Json.withinDigitsMembers,
      Bool.and_eq_true, withinDigits_natInt] at h
    exact ⟨h.2.2.2.2.2.1, h.1⟩
  · rintro ⟨hsequence, hdepth⟩
    rcases segment.placed.withinDigits hsequence with ⟨hlower, hupper, hparent⟩
    simp only [unresolvedSemanticValue, Json.withinDigits.eq_3, Json.withinDigitsMembers,
      Bool.and_eq_true, withinDigits_natInt]
    exact ⟨hdepth, hlower, hparent, rfl, hreference, hsequence, htarget, hupper, trivial⟩

theorem withinDigits_frontier (frontier : PartialComparisonFrontier) :
    (frontierSemanticValue frontier).withinDigits = true ↔ frontier.Writable := by
  simp only [frontierSemanticValue, Json.withinDigits, Json.withinDigitsMembers,
    Bool.and_eq_true, Json.withinDigitsItems_iff, List.forall_mem_map, withinDigits_segment,
    withinDigits_unresolved, and_true, PartialComparisonFrontier.Writable]

/-! ## The codec -/

/-- A frontier has bytes exactly when the interpreter writes its numbers. -/
theorem canonicalPartialComparisonFrontierBytes_isOk {frontier : PartialComparisonFrontier} :
    (∃ payload, canonicalPartialComparisonFrontierBytes frontier = .ok payload) ↔
      frontier.Writable := by
  constructor
  · rintro ⟨payload, h⟩
    exact (withinDigits_frontier frontier).mp
      (canonicalPartialComparisonFrontierBytes_eq_ok.mp h).1
  · intro h
    refine ⟨_, canonicalPartialComparisonFrontierBytes_eq_ok.mpr
      ⟨(withinDigits_frontier frontier).mpr h,
        String.ofList (frontierSemanticValue frontier).sorted.render, ?_, rfl⟩⟩
    simp [Text.ofString]

/-- A frontier has bytes exactly when its sequences and depths have no more digits
than the interpreter writes, and these are decoded to it; distinct frontiers have
distinct bytes; and bytes that are decoded are the bytes of the frontier they are
decoded to, whose sequences are ascending and disjoint. -/
theorem frontier_codec_roundTrip :
    (∀ frontier : PartialComparisonFrontier,
      (∃ payload, canonicalPartialComparisonFrontierBytes frontier = .ok payload) ↔
        frontier.Writable) ∧
    (∀ (frontier : PartialComparisonFrontier) (payload : Bytes),
      canonicalPartialComparisonFrontierBytes frontier = .ok payload →
      partialComparisonFrontierFromCanonicalBytes payload = .ok frontier) ∧
    (∀ (frontier other : PartialComparisonFrontier) (payload : Bytes),
      canonicalPartialComparisonFrontierBytes frontier = .ok payload →
      canonicalPartialComparisonFrontierBytes other = .ok payload → frontier = other) ∧
    ∀ (payload : Bytes) (frontier : PartialComparisonFrontier),
      partialComparisonFrontierFromCanonicalBytes payload = .ok frontier →
      canonicalPartialComparisonFrontierBytes frontier = .ok payload ∧
        (frontier.topology.map (·.segmentSequence)).Pairwise (· < ·) ∧
        (frontier.unresolved.map (·.segmentSequence)).Pairwise (· < ·) ∧
        ∀ recorded ∈ frontier.topology, ∀ left ∈ frontier.unresolved,
          recorded.segmentSequence ≠ left.segmentSequence := by
  refine ⟨fun _ => canonicalPartialComparisonFrontierBytes_isOk, ?_, ?_, ?_⟩
  · intro frontier payload h
    exact partialComparisonFrontierFromCanonicalBytes_bytes h
  · intro frontier other payload h h'
    have hdecoded := partialComparisonFrontierFromCanonicalBytes_bytes h
    rw [partialComparisonFrontierFromCanonicalBytes_bytes h'] at hdecoded
    cases hdecoded
    rfl
  · intro payload frontier h
    exact ⟨partialComparisonFrontierFromCanonicalBytes_eq_ok.mp h, frontier.topology_sorted,
      frontier.unresolved_sorted, frontier.disjoint⟩

theorem int64Min_isInt64 : IsInt64 int64Min := by decide

/-- The whole key range, left open with the given sequence below no parent. -/
def openRoot (segmentSequence : ℕ) : PartialComparisonFrontier where
  topology := []
  unresolved :=
    [{ segmentSequence, parentSegmentSequence := none, depth := 0
       lowerInclusive := int64Min, upperExclusive := none, reason := .budgetExhausted
       referenceFingerprint := none, targetFingerprint := none
       placed := ⟨by simp, by simp, int64Min_isInt64, by simp⟩
       both_sides := rfl
       differs := by simp }]
  topology_sorted := by simp
  unresolved_sorted := by simp
  disjoint := by simp

theorem frontier_codec_roundTrip_openRoot :
    partialComparisonFrontierFromCanonicalBytes (utf8Encode
      ("\x7b\"topology\":[],\"unresolved\":[\x7b\"depth\":0,\"lower_inclusive\":" ++
        "-9223372036854775808,\"parent_segment_sequence\":null,\"reason\":\"budget_exhausted\"," ++
        "\"reference_fingerprint\":null,\"segment_sequence\":7,\"target_fingerprint\":null," ++
        "\"upper_exclusive\":null\x7d]\x7d")) = .ok (openRoot 7) := by
  apply frontier_codec_roundTrip.2.1
  decide +kernel

/-- A valid frontier whose sequence is too long to be written has no bytes. -/
theorem frontier_codec_unwritable :
    ¬ ∃ payload,
      canonicalPartialComparisonFrontierBytes (openRoot (10 ^ intMaxStrDigits)) = .ok payload := by
  rw [canonicalPartialComparisonFrontierBytes_isOk]
  intro h
  have hsequence := (h.2 _ (List.mem_cons_self ..)).1
  exact Nat.lt_irrefl _ hsequence

end ForensicData.Comparison
