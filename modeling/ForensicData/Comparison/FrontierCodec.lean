/-
ForensicData.Comparison.FrontierCodec — the stored bytes of a partial frontier.

A frontier is written as canonical JSON, and read back with every check of its
records: the members of each object, the kind of each value, and what the
constructors demand of the integers they are given.
-/
import ForensicData.Canonical.Schema
import ForensicData.Comparison.Segment
import ForensicData.Contracts.Semantics
import ForensicData.Lib.JsonDenotation
import ForensicData.Result.RunResult
import Mathlib.Data.List.GetD

namespace ForensicData.Comparison

open ForensicData.Canonical
open ForensicData.Contracts
open ForensicData.Lib
open ForensicData.Result

/-! ## Writing -/

def integerOrNull : Option Int → Json
  | none => .null
  | some n => .int n

/-- `_fingerprint_semantic_value`. -/
def fingerprintSemanticValue (fingerprint : Fingerprint) : Json :=
  .object
    [("count", .int fingerprint.count),
     ("limb_sums", .array ((List.ofFn fingerprint.limbSums).map fun limb : ℕ => .int limb))]

/-- `None`, or `_fingerprint_semantic_value`. -/
def optionalFingerprintSemanticValue : Option Fingerprint → Json
  | none => .null
  | some fingerprint => fingerprintSemanticValue fingerprint

/-- `_segment_semantic_value`, with the keys in order. -/
def segmentSemanticValue (segment : ComparisonSegmentRecord) : Json :=
  .object
    [("depth", .int segment.depth),
     ("lower_inclusive", .int segment.lowerInclusive),
     ("parent_segment_sequence", integerOrNull (segment.parentSegmentSequence.map fun n : ℕ => (n : Int))),
     ("reference_fingerprint", fingerprintSemanticValue segment.referenceFingerprint),
     ("segment_sequence", .int segment.segmentSequence),
     ("state", .string segment.state.text),
     ("target_fingerprint", fingerprintSemanticValue segment.targetFingerprint),
     ("upper_exclusive", integerOrNull segment.upperExclusive)]

/-- An entry of the unresolved list, with the keys in order. -/
def unresolvedSemanticValue (segment : UnresolvedComparisonSegment) : Json :=
  .object
    [("depth", .int segment.depth),
     ("lower_inclusive", .int segment.lowerInclusive),
     ("parent_segment_sequence", integerOrNull (segment.parentSegmentSequence.map fun n : ℕ => (n : Int))),
     ("reason", .string segment.reason.value),
     ("reference_fingerprint", optionalFingerprintSemanticValue segment.referenceFingerprint),
     ("segment_sequence", .int segment.segmentSequence),
     ("target_fingerprint", optionalFingerprintSemanticValue segment.targetFingerprint),
     ("upper_exclusive", integerOrNull segment.upperExclusive)]

def frontierSemanticValue (frontier : PartialComparisonFrontier) : Json :=
  .object
    [("topology", .array (frontier.topology.map segmentSemanticValue)),
     ("unresolved", .array (frontier.unresolved.map unresolvedSemanticValue))]

/-- `text.encode("utf-8")`. -/
def encodeText (text : Text) : Except Refusal Bytes :=
  (text.readString.map utf8Encode).mapError fun index =>
    { error := .valueError
      message := s!"'utf-8' codec can't encode character in position {index}: "
        ++ "surrogates not allowed" }

/-- `canonical_partial_comparison_frontier_bytes`. -/
def canonicalPartialComparisonFrontierBytes (frontier : PartialComparisonFrontier) :
    Except Refusal Bytes := do
  let text ← Semantics.dumps (frontierSemanticValue frontier)
  encodeText text

/-! ## Reading values -/

/-- `_require_json_object`. -/
def requireJsonObject (value : PyValue) (context : String) :
    Except Refusal (List (Text × PyValue)) :=
  match value with
  | .dict members => .ok members
  | _ => raiseValueError s!"{context} must be a JSON object"

/-- `_require_json_array`. -/
def requireJsonArray (value : PyValue) (context : String) : Except Refusal (List PyValue) :=
  match value with
  | .list values => .ok values
  | _ => raiseValueError s!"{context} must be a JSON array"

/-- `_require_json_integer`. -/
def requireJsonInteger (value : PyValue) (context : String) : Except Refusal Int :=
  match value with
  | .int n => .ok n
  | _ => raiseValueError s!"{context} must be an exact JSON integer"

/-- `_optional_json_integer`. -/
def optionalJsonInteger (value : PyValue) (context : String) : Except Refusal (Option Int) :=
  match value with
  | .none => .ok none
  | _ => (requireJsonInteger value context).map some

/-- `_require_json_string`. -/
def requireJsonString (value : PyValue) (context : String) : Except Refusal Text :=
  match value with
  | .str text => .ok text
  | _ => raiseValueError s!"{context} must be a JSON string"

def refuseKeys (members : List (Text × PyValue)) (names : List String) (context : String) :
    Except Refusal Unit :=
  refuseIf (¬ PyValue.HasKeys members names)
    { error := .valueError, message := s!"{context} has unsupported or missing fields" }

/-! ## Records of integers -/

/-- `_require_nonnegative_integer`. -/
def requireNonnegativeInteger (value : Int) (context : String) : Except Refusal ℕ :=
  if value < 0 then raiseValueError s!"{context} must be a non-negative integer"
  else .ok value.toNat

/-- `None`, or `_require_nonnegative_integer`. -/
def optionalNonnegativeInteger (value : Option Int) (context : String) :
    Except Refusal (Option ℕ) :=
  match value with
  | none => .ok none
  | some n => (requireNonnegativeInteger n context).map some

/-- The leading fields of a record as integers. -/
structure PlaceIntegers where
  segmentSequence : Int
  parentSegmentSequence : Option Int
  depth : Int
  lowerInclusive : Int
  upperExclusive : Option Int

/-- The names of the numbers of a place in the texts of one record class. -/
structure NumberTexts where
  sequence : String
  parent : String
  depth : String

/-- The leading fields of a record, checked in the order of its `__post_init__` as far
as a natural number has to be one. -/
def placeOfIntegers (numbers : NumberTexts) (texts : PlaceTexts) (place : PlaceIntegers) :
    Except Refusal SegmentPlace := do
  let segmentSequence ← requireNonnegativeInteger place.segmentSequence numbers.sequence
  let parentSegmentSequence ← optionalNonnegativeInteger place.parentSegmentSequence numbers.parent
  refuseIf (parentSegmentSequence.any (· ≥ segmentSequence) = true)
    { error := .valueError, message := texts.parentPrecedes }
  let depth ← requireNonnegativeInteger place.depth numbers.depth
  return { segmentSequence, parentSegmentSequence, depth, lowerInclusive := place.lowerInclusive
           upperExclusive := place.upperExclusive }

/-- The loop over the limb sums of `Fingerprint.__post_init__`, from `index` on. -/
def limbSumsOfIntegers (count : ℕ) (index : ℕ) : List Int → Except Refusal (List ℕ)
  | [] => .ok []
  | limb :: limbs => do
    refuseIf (¬ (0 ≤ limb ∧ limb ≤ decimal38Max))
      (overflow s!"fingerprint limb sum {index} is outside exact decimal(38,0) range")
    refuseIf ((count * uint32Max : ℕ) < limb)
      (overflow s!"fingerprint limb sum {index} exceeds count * uint32 maximum")
    (limbSumsOfIntegers count (index + 1) limbs).map fun rest => limb.toNat :: rest

/-- `Fingerprint(count, limb_sums)` of eight integers. -/
def fingerprintOfIntegers (count : Int) (limbs : List Int) : Except Refusal Fingerprint := do
  refuseIf (¬ (0 ≤ count ∧ count ≤ int64Max))
    (overflow "fingerprint count must be an integer in signed int64 nonnegative range")
  let limbSums ← limbSumsOfIntegers count.toNat 0 limbs
  Fingerprint.make count.toNat fun i => limbSums.getD i 0

/-! ## Reading records -/

/-- `tuple(_require_json_integer(limb, …) for limb in limbs)`. -/
def limbIntegers (context : String) : List PyValue → Except Refusal (List Int)
  | [] => .ok []
  | value :: values => do
    let limb ← requireJsonInteger value s!"{context} limb"
    (limbIntegers context values).map fun limbs => limb :: limbs

/-- `_fingerprint_from_semantic_value`. -/
def fingerprintFromSemanticValue (value : PyValue) (context : String) :
    Except Refusal Fingerprint := do
  let item ← requireJsonObject value context
  refuseKeys item ["count", "limb_sums"] context
  let limbs ← requireJsonArray (PyValue.item item "limb_sums") s!"{context} limbs"
  refuseIf (limbs.length ≠ 8)
    { error := .valueError, message := s!"{context} requires exactly eight limbs" }
  let parsedLimbs ← limbIntegers context limbs
  let count ← requireJsonInteger (PyValue.item item "count") s!"{context} count"
  fingerprintOfIntegers count parsedLimbs

/-- `_optional_fingerprint_from_semantic_value`. -/
def optionalFingerprintFromSemanticValue (value : PyValue) (context : String) :
    Except Refusal (Option Fingerprint) :=
  match value with
  | .none => .ok none
  | _ => (fingerprintFromSemanticValue value context).map some

def ComparisonSegmentState.all : List ComparisonSegmentState :=
  [.split, .fingerprintMatch, .exactMatch, .exactMismatch]

/-- `ComparisonSegmentState(text)`. -/
def segmentStateOfText (text : Text) : Except Refusal ComparisonSegmentState :=
  (ComparisonSegmentState.all.find? fun state => decide (Text.ofString state.text = text)).elim
    (raiseValueError s!"{Semantics.keyText text} is not a valid ComparisonSegmentState") .ok

def ReasonCode.all : List ReasonCode :=
  [.dataMismatch, .contractViolation, .notReady, .cutMismatch, .snapshotLost, .budgetExhausted,
    .cancelled, .cancellationUnconfirmed, .oversizedRecord, .invalidContract,
    .unsupportedCapability, .lossyTransport, .queryError, .persistenceError, .commitUnknown,
    .protocolViolation]

/-- `ReasonCode(text)`. -/
def reasonCodeOfText (text : Text) : Except Refusal ReasonCode :=
  (ReasonCode.all.find? fun reason => decide (Text.ofString reason.value = text)).elim
    (raiseValueError s!"{Semantics.keyText text} is not a valid ReasonCode") .ok

/-- The leading fields of both records, read in the order of their arguments. -/
def placeFromItem (item : List (Text × PyValue)) : Except Refusal PlaceIntegers := do
  let segmentSequence ← requireJsonInteger (PyValue.item item "segment_sequence") "segment sequence"
  let parentSegmentSequence ← optionalJsonInteger (PyValue.item item "parent_segment_sequence")
    "parent segment sequence"
  let depth ← requireJsonInteger (PyValue.item item "depth") "segment depth"
  let lowerInclusive ← requireJsonInteger (PyValue.item item "lower_inclusive") "lower bound"
  let upperExclusive ← optionalJsonInteger (PyValue.item item "upper_exclusive") "upper bound"
  return { segmentSequence, parentSegmentSequence, depth, lowerInclusive, upperExclusive }

def comparisonSegmentNumbers : NumberTexts where
  sequence := "segment_sequence"
  parent := "parent_segment_sequence"
  depth := "segment depth"

def unresolvedSegmentNumbers : NumberTexts where
  sequence := "unresolved segment sequence"
  parent := "unresolved parent segment sequence"
  depth := "unresolved segment depth"

/-- `_comparison_segment_from_semantic_value`. -/
def comparisonSegmentFromSemanticValue (value : PyValue) :
    Except Refusal ComparisonSegmentRecord := do
  let item ← requireJsonObject value "partial topology segment"
  refuseKeys item ["depth", "lower_inclusive", "parent_segment_sequence", "reference_fingerprint",
    "segment_sequence", "state", "target_fingerprint", "upper_exclusive"] "partial topology segment"
  let integers ← placeFromItem item
  let stateText ← requireJsonString (PyValue.item item "state") "segment state"
  let state ← segmentStateOfText stateText
  let referenceFingerprint ← fingerprintFromSemanticValue
    (PyValue.item item "reference_fingerprint") "reference fingerprint"
  let targetFingerprint ← fingerprintFromSemanticValue
    (PyValue.item item "target_fingerprint") "target fingerprint"
  let place ← placeOfIntegers comparisonSegmentNumbers comparisonSegmentTexts integers
  ComparisonSegmentRecord.make place state referenceFingerprint targetFingerprint

/-- `_unresolved_segment_from_semantic_value`. -/
def unresolvedSegmentFromSemanticValue (value : PyValue) :
    Except Refusal UnresolvedComparisonSegment := do
  let item ← requireJsonObject value "unresolved segment"
  refuseKeys item ["depth", "lower_inclusive", "parent_segment_sequence", "reason",
    "reference_fingerprint", "segment_sequence", "target_fingerprint", "upper_exclusive"]
    "unresolved segment"
  let integers ← placeFromItem item
  let reasonText ← requireJsonString (PyValue.item item "reason") "unresolved reason"
  let reason ← reasonCodeOfText reasonText
  let referenceFingerprint ← optionalFingerprintFromSemanticValue
    (PyValue.item item "reference_fingerprint") "unresolved reference fingerprint"
  let targetFingerprint ← optionalFingerprintFromSemanticValue
    (PyValue.item item "target_fingerprint") "unresolved target fingerprint"
  let place ← placeOfIntegers unresolvedSegmentNumbers unresolvedSegmentTexts integers
  UnresolvedComparisonSegment.make place reason referenceFingerprint targetFingerprint

/-- `tuple(read(item) for item in values)`. -/
def readEach {α : Type} (read : PyValue → Except Refusal α) :
    List PyValue → Except Refusal (List α)
  | [] => .ok []
  | value :: values => do
    let item ← read value
    (readEach read values).map fun items => item :: items

/-- `partial_comparison_frontier_from_canonical_bytes`, after the JSON is loaded and
before it is written again. -/
def frontierFromValue (value : PyValue) : Except Refusal PartialComparisonFrontier := do
  let root ← requireJsonObject value "partial comparison frontier"
  refuseKeys root ["topology", "unresolved"] "partial comparison frontier"
  let topologyValues ← requireJsonArray (PyValue.item root "topology") "partial topology"
  let unresolvedValues ← requireJsonArray (PyValue.item root "unresolved") "unresolved frontier"
  let topology ← readEach comparisonSegmentFromSemanticValue topologyValues
  let unresolved ← readEach unresolvedSegmentFromSemanticValue unresolvedValues
  PartialComparisonFrontier.make topology unresolved

/-- `partial_comparison_frontier_from_canonical_bytes`. -/
def partialComparisonFrontierFromCanonicalBytes (payload : Bytes) :
    Except Refusal PartialComparisonFrontier :=
  match utf8Decode payload with
  | none => raiseValueError "partial comparison frontier must be valid UTF-8 JSON"
  | some text => do
    let value ← Semantics.semanticValueFromJson (Text.ofString text)
    let frontier ← frontierFromValue value
    let canonical ← canonicalPartialComparisonFrontierBytes frontier
    refuseIf (canonical ≠ payload)
      { error := .valueError, message := "partial comparison frontier is not canonical JSON" }
    return frontier

end ForensicData.Comparison
