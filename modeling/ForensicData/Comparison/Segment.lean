/-
ForensicData.Comparison.Segment — key ranges of the drill-down and the records
made of them.

The source has four classes with the same five leading fields: the engine's
pending ranges, its recorded topology, the unresolved part of a partial
frontier and the persisted rows. The five fields are `SegmentPlace`; the
checks three of the four share are `SegmentPlace.check`, with the texts of
each class as its argument, and `SegmentPlace.WellPlaced` is what passing them
means. Each record carries it, together with what its own state demands of the
two fingerprints.
-/
import ForensicData.Canonical.Hashing
import ForensicData.Lib.Tiling
import ForensicData.Result.Model

namespace ForensicData.Comparison

open ForensicData.Canonical
open ForensicData.Result

/-! ## Places -/

/-- A numbered half-open key range below an optional parent. `none` as upper
bound is the open top of the signed 64-bit domain. -/
structure SegmentPlace where
  segmentSequence : ℕ
  parentSegmentSequence : Option ℕ
  depth : ℕ
  lowerInclusive : Int
  upperExclusive : Option Int
  deriving DecidableEq, Repr

/-- `_PendingSegment`: a place the engine has still to resolve. -/
abbrev PendingSegment := SegmentPlace

/-- A key lies in the half-open range from `lower` to `upper`. -/
def inRange (lower : Int) (upper : Option Int) (key : Int) : Bool :=
  decide (lower ≤ key) && upper.all fun bound => decide (key < bound)

def SegmentPlace.covers (place : SegmentPlace) (key : Int) : Bool :=
  inRange place.lowerInclusive place.upperExclusive key

theorem inRange_eq_true {lower : Int} {upper : Option Int} {key : Int} :
    inRange lower upper key = true ↔ lower ≤ key ∧ ∀ bound, upper = some bound → key < bound := by
  cases upper <;> simp [inRange]

/-- The places cut `whole` into pairwise disjoint ranges without a gap. -/
def PartitionsRange (whole : SegmentPlace) (parts : List SegmentPlace) : Prop :=
  (parts.Pairwise fun p q => ∀ key, ¬ (p.covers key = true ∧ q.covers key = true)) ∧
    ∀ key, whole.covers key = true ↔ ∃ p ∈ parts, p.covers key = true

theorem partitionsRange_iff_tiles {whole : SegmentPlace} {parts : List SegmentPlace} :
    PartitionsRange whole parts ↔ Lib.Tiles SegmentPlace.covers parts whole.covers :=
  Lib.tiles_iff.symm

/-- What a segment record guarantees of its place: its parent precedes it, only
the root has no parent, and its bounds are ordered 64-bit integers. -/
structure SegmentPlace.WellPlaced (place : SegmentPlace) : Prop where
  parent_lt : ∀ parent, place.parentSegmentSequence = some parent → parent < place.segmentSequence
  root_iff : place.depth = 0 ↔ place.parentSegmentSequence = none
  lower_int64 : IsInt64 place.lowerInclusive
  upper_int64 : ∀ upper, place.upperExclusive = some upper →
    IsInt64 upper ∧ place.lowerInclusive < upper

/-- The texts of the place checks of one record class. -/
structure PlaceTexts where
  parentPrecedes : String
  rootOnly : String
  lowerBound : String
  upperBound : String
  upperExceeds : String

/-- The place checks of `__post_init__`, in their order. -/
def SegmentPlace.check (texts : PlaceTexts) (place : SegmentPlace) : Except Refusal Unit := do
  refuseIf (place.parentSegmentSequence.any (· ≥ place.segmentSequence) = true)
    { error := .valueError, message := texts.parentPrecedes }
  refuseIf ((place.depth == 0) ≠ place.parentSegmentSequence.isNone)
    { error := .valueError, message := texts.rootOnly }
  refuseIf (¬ IsInt64 place.lowerInclusive)
    { error := .valueError, message := texts.lowerBound }
  refuseIf (place.upperExclusive.any (fun upper => !decide (IsInt64 upper)) = true)
    { error := .valueError, message := texts.upperBound }
  refuseIf (place.upperExclusive.any (· ≤ place.lowerInclusive) = true)
    { error := .valueError, message := texts.upperExceeds }

theorem SegmentPlace.check_eq_ok {texts : PlaceTexts} {place : SegmentPlace} {u : Unit} :
    place.check texts = .ok u ↔ place.WellPlaced := by
  obtain ⟨sequence, parent, depth, lower, upper⟩ := place
  simp only [SegmentPlace.check, bind_unit_eq_ok, refuseIf_eq_ok]
  refine ⟨fun h => ?_, fun h => ?_⟩
  · obtain ⟨hparent, hroot, hlower, hint, hupper⟩ := h
    refine ⟨?_, ?_, by simpa using hlower, ?_⟩
    · intro q hq
      simp only at hq
      subst hq
      simpa using hparent
    · cases parent <;> simp_all
    · intro bound hbound
      simp only at hbound
      subst hbound
      exact ⟨by simpa using hint, by simpa using hupper⟩
  · obtain ⟨hparent, hroot, hlower, hupper⟩ := h
    refine ⟨?_, ?_, by simpa using hlower, ?_, ?_⟩
    · cases parent with
      | none => simp
      | some q => simpa using hparent q rfl
    · cases parent <;> simp_all
    · cases upper with
      | none => simp
      | some bound => simpa using (hupper bound rfl).1
    · cases upper with
      | none => simp
      | some bound => simpa using (hupper bound rfl).2

/-- Two places cut a third in two: one level deeper, the first from its lower
bound up to the second, the second up to its upper bound. -/
structure SegmentPlace.Bisects (parent left right : SegmentPlace) : Prop where
  left_depth : left.depth = parent.depth + 1
  right_depth : right.depth = parent.depth + 1
  lower_eq : left.lowerInclusive = parent.lowerInclusive
  cut_eq : left.upperExclusive = some right.lowerInclusive
  upper_eq : right.upperExclusive = parent.upperExclusive
  lower_lt : left.lowerInclusive < right.lowerInclusive
  lt_upper : ∀ upper, right.upperExclusive = some upper → right.lowerInclusive < upper

/-- The two halves of a bisected place tile it. -/
theorem SegmentPlace.Bisects.tiles {parent left right : SegmentPlace}
    (h : parent.Bisects left right) :
    Lib.Tiles SegmentPlace.covers [left, right] parent.covers := by
  intro key
  obtain ⟨_, _, hlower, hcut, hupper, hlt, hbound⟩ := h
  obtain ⟨_, _, _, lower, upper⟩ := parent
  simp only at hlower hupper
  rw [hlower] at hlt
  rw [hupper] at hbound
  simp only [Lib.multiplicity_cons, Lib.multiplicity_nil, SegmentPlace.covers, inRange, hcut,
    hupper, hlower, Option.all_some]
  cases upper with
  | none =>
    simp only [Option.all_none, Bool.and_true, decide_eq_true_eq, Bool.and_eq_true]
    split_ifs <;> omega
  | some upper =>
    have := hbound upper rfl
    simp only [Option.all_some, decide_eq_true_eq, Bool.and_eq_true]
    split_ifs <;> omega

/-! ## Recorded segments -/

inductive ComparisonSegmentState where
  | split
  | fingerprintMatch
  | exactMatch
  | exactMismatch
  deriving DecidableEq, Repr

/-- `state.value`. -/
def ComparisonSegmentState.text : ComparisonSegmentState → String
  | .split => "split"
  | .fingerprintMatch => "fingerprint_match"
  | .exactMatch => "exact_match"
  | .exactMismatch => "exact_mismatch"

/-- The matched states, whose fingerprints must agree. -/
def ComparisonSegmentState.isMatched : ComparisonSegmentState → Bool
  | .fingerprintMatch => true
  | .exactMatch => true
  | .split => false
  | .exactMismatch => false

/-- The states of a segment that is not subdivided. -/
def ComparisonSegmentState.isTerminal : ComparisonSegmentState → Bool
  | .split => false
  | _ => true

/-- The states reached by reading the rows. -/
def ComparisonSegmentState.isExact : ComparisonSegmentState → Bool
  | .exactMatch => true
  | .exactMismatch => true
  | _ => false

def comparisonSegmentTexts : PlaceTexts where
  parentPrecedes := "parent segment must precede its child"
  rootOnly := "only the depth-zero root segment can omit its parent"
  lowerBound := "segment lower bound must be a signed int64 integer"
  upperBound := "segment upper bound must be a signed int64 integer"
  upperExceeds := "segment upper bound must exceed its lower bound"

/-- A resolved or subdivided segment with the fingerprints of both sides. A
matched state needs equal ones, every other state different ones. -/
structure ComparisonSegmentRecord extends SegmentPlace where
  state : ComparisonSegmentState
  referenceFingerprint : Fingerprint
  targetFingerprint : Fingerprint
  placed : toSegmentPlace.WellPlaced
  agrees : state.isMatched = true ↔ referenceFingerprint = targetFingerprint
  deriving DecidableEq

/-- `ComparisonSegmentRecord(...)`. -/
def ComparisonSegmentRecord.make (place : SegmentPlace) (state : ComparisonSegmentState)
    (referenceFingerprint targetFingerprint : Fingerprint) :
    Except Refusal ComparisonSegmentRecord :=
  match hplace : place.check comparisonSegmentTexts with
  | .error refusal => .error refusal
  | .ok _ =>
    if agrees : state.isMatched = true ↔ referenceFingerprint = targetFingerprint then
      .ok { place with state, referenceFingerprint, targetFingerprint,
                       placed := SegmentPlace.check_eq_ok.mp hplace, agrees }
    else if state.isMatched = true then
      raiseValueError s!"{state.text} segment requires equal fingerprints"
    else raiseValueError s!"{state.text} segment requires unequal fingerprints"

theorem ComparisonSegmentRecord.make_eq_ok {place : SegmentPlace} {state : ComparisonSegmentState}
    {reference target : Fingerprint} {record : ComparisonSegmentRecord} :
    ComparisonSegmentRecord.make place state reference target = .ok record ↔
      record.toSegmentPlace = place ∧ record.state = state ∧
        record.referenceFingerprint = reference ∧ record.targetFingerprint = target := by
  unfold ComparisonSegmentRecord.make
  refine ⟨fun h => ?_, fun h => ?_⟩
  · split at h
    · simp at h
    · split at h
      · rw [Except.ok.injEq] at h
        subst h
        exact ⟨rfl, rfl, rfl, rfl⟩
      · split at h <;> simp [raiseValueError] at h
  · obtain ⟨rfl, rfl, rfl, rfl⟩ := h
    split
    · rename_i refusal hrefusal
      have hok : record.toSegmentPlace.check comparisonSegmentTexts = .ok () :=
        SegmentPlace.check_eq_ok.mpr record.placed
      simp [hok] at hrefusal
    · rw [dif_pos record.agrees]

/-! ## Unresolved segments and partial frontiers -/

def unresolvedSegmentTexts : PlaceTexts where
  parentPrecedes := "unresolved parent segment must precede its child"
  rootOnly := "only an unresolved root can omit its parent"
  lowerBound := "unresolved segment lower bound must be a signed int64 integer"
  upperBound := "unresolved segment upper bound must be a signed int64 integer"
  upperExceeds := "unresolved segment upper bound must exceed its lower bound"

/-- A segment an interrupted comparison left open. Where its fingerprints are
known, both are, and they differ. -/
structure UnresolvedComparisonSegment extends SegmentPlace where
  reason : ReasonCode
  referenceFingerprint : Option Fingerprint
  targetFingerprint : Option Fingerprint
  placed : toSegmentPlace.WellPlaced
  both_sides : referenceFingerprint.isSome = targetFingerprint.isSome
  differs : referenceFingerprint.isSome = true → referenceFingerprint ≠ targetFingerprint
  deriving DecidableEq

/-- `UnresolvedComparisonSegment(...)`. -/
def UnresolvedComparisonSegment.make (place : SegmentPlace) (reason : ReasonCode)
    (referenceFingerprint targetFingerprint : Option Fingerprint) :
    Except Refusal UnresolvedComparisonSegment :=
  match hplace : place.check unresolvedSegmentTexts with
  | .error refusal => .error refusal
  | .ok _ =>
    if both_sides : referenceFingerprint.isSome = targetFingerprint.isSome then
      if differs : referenceFingerprint.isSome = true → referenceFingerprint ≠ targetFingerprint then
        .ok { place with reason, referenceFingerprint, targetFingerprint,
                         placed := SegmentPlace.check_eq_ok.mp hplace, both_sides, differs }
      else raiseValueError "unresolved fingerprint witness must prove a mismatch"
    else raiseValueError "unresolved fingerprint witness requires both sides"

/-- What an interrupted comparison has recorded and what it left open, each in
ascending sequence and without a sequence in common. -/
structure PartialComparisonFrontier where
  topology : List ComparisonSegmentRecord
  unresolved : List UnresolvedComparisonSegment
  topology_sorted : (topology.map (·.segmentSequence)).Pairwise (· < ·)
  unresolved_sorted : (unresolved.map (·.segmentSequence)).Pairwise (· < ·)
  disjoint : ∀ recorded ∈ topology, ∀ left ∈ unresolved,
    recorded.segmentSequence ≠ left.segmentSequence
  deriving DecidableEq

/-- `PartialComparisonFrontier(...)`. -/
def PartialComparisonFrontier.make (topology : List ComparisonSegmentRecord)
    (unresolved : List UnresolvedComparisonSegment) : Except Refusal PartialComparisonFrontier :=
  if ¬ (topology.map (·.segmentSequence)).Nodup then
    raiseValueError "partial topology segment sequences must be unique"
  else if ¬ (unresolved.map (·.segmentSequence)).Nodup then
    raiseValueError "unresolved segment sequences must be unique"
  else if disjoint : ∀ recorded ∈ topology, ∀ left ∈ unresolved,
      recorded.segmentSequence ≠ left.segmentSequence then
    if topology_sorted : (topology.map (·.segmentSequence)).Pairwise (· < ·) then
      if unresolved_sorted : (unresolved.map (·.segmentSequence)).Pairwise (· < ·) then
        .ok { topology, unresolved, topology_sorted, unresolved_sorted, disjoint }
      else raiseValueError "unresolved frontier must use ascending segment order"
    else raiseValueError "partial topology must use ascending segment order"
  else raiseValueError "partial topology and unresolved frontier must be disjoint"

end ForensicData.Comparison
