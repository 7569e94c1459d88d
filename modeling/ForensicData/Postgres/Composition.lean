/-
ForensicData.Postgres.Composition — physical unions of inheritance hierarchies.

A catalog row describes a relation of the hierarchy and one of its parents. The
frozen candidate is the relations and the inheritance edges that the rows agree
on, in a fixed order, when the graph is reachable from its root and has no cycle.
Both readings of the rows are dictionaries, so conflicting rows are refused.
-/
import ForensicData.Canonical.Model
import ForensicData.Comparison.RowDecoding
import ForensicData.Lib.Agreement
import ForensicData.Lib.DepthFirst
import Mathlib.Data.Finset.Sort
import Mathlib.Data.Prod.Lex
import Mathlib.Data.String.Basic

namespace ForensicData.Postgres

open ForensicData.Canonical
open ForensicData.Comparison.Postgres (DatabaseValue DatabaseRow)
open ForensicData.Lib

/-! ## Refusals -/

def metadataError (message : String) : Refusal := { error := .postgresMetadataError, message }

def dataValidationError (message : String) : Refusal :=
  { error := .postgresDataValidationError, message }

def compositionError (message : String) : Refusal := { error := .valueError, message }

/-- `_require_text`. -/
def requireText (value : DatabaseValue) (fieldName : String) : Except Refusal String :=
  match value with
  | .text text =>
    if text = "" then
      .error (dataValidationError s!"PostgreSQL field '{fieldName}' must be a non-empty string")
    else .ok text
  | _ => .error (dataValidationError
      s!"PostgreSQL field '{fieldName}' must be a non-empty string")

/-- `_require_integer`. -/
def requireInteger (value : DatabaseValue) (fieldName : String) : Except Refusal Int :=
  match value with
  | .integer n => .ok n
  | _ => .error (dataValidationError s!"PostgreSQL field '{fieldName}' must be an integer")

/-- `_require_bounded_integer`. -/
def requireBoundedInteger (value : DatabaseValue) (fieldName : String) (minimum maximum : Int) :
    Except Refusal Int := do
  let integer ← requireInteger value fieldName
  refuseIf (¬ (minimum ≤ integer ∧ integer ≤ maximum)) (dataValidationError
    (s!"PostgreSQL field '{fieldName}' is outside its accepted range: "
      ++ s!"minimum={minimum}, maximum={maximum}"))
  return integer

/-- `_require_optional_integer`. -/
def requireOptionalInteger (value : DatabaseValue) (fieldName : String) :
    Except Refusal (Option Int) :=
  match value with
  | .null => .ok none
  | _ => (requireInteger value fieldName).map some

/-- `_require_boolean`. -/
def requireBoolean (value : DatabaseValue) (fieldName : String) : Except Refusal Bool :=
  match value with
  | .boolean b => .ok b
  | _ => .error (dataValidationError s!"PostgreSQL field '{fieldName}' must be a boolean")

/-! ## The graph -/

/-- `PostgresInheritanceEdge`, attached. -/
structure InheritanceEdge where
  parentRelationOid : Int
  childRelationOid : Int
  sequence : Int
  deriving DecidableEq, Repr

/-- `PostgresInheritanceEdge(…)` with the checks of its `__post_init__`. -/
def InheritanceEdge.make (parentRelationOid childRelationOid sequence : Int) :
    Except Refusal InheritanceEdge := do
  refuseIf (parentRelationOid < 1)
    (compositionError "inheritance parent OID must be a positive integer")
  refuseIf (childRelationOid < 1)
    (compositionError "inheritance child OID must be a positive integer")
  refuseIf (sequence < 1) (compositionError "inheritance edge sequence must be a positive integer")
  refuseIf (parentRelationOid = childRelationOid)
    (compositionError "PostgreSQL inheritance edge cannot be self-referential")
  return { parentRelationOid, childRelationOid, sequence }

/-- `children_by_parent`, read at a relation. -/
def childrenOf (edges : List InheritanceEdge) (oid : Int) : List Int :=
  (edges.filter fun edge => edge.parentRelationOid = oid).map (·.childRelationOid)

/-- The child and the sequence of an edge. -/
def InheritanceEdge.sequenceIdentity (edge : InheritanceEdge) : Int × Int :=
  (edge.childRelationOid, edge.sequence)

/-- The loop over the edges, which refuses a repeated sequence of one child. -/
def requireSequences (childSequences : List (Int × Int)) :
    List InheritanceEdge → Except Refusal Unit
  | [] => .ok ()
  | edge :: edges =>
    if edge.sequenceIdentity ∈ childSequences then
      .error (compositionError
        ("PostgreSQL relation composition repeats an inheritance sequence for one child: "
          ++ s!"child_oid={edge.childRelationOid}, sequence={edge.sequence}"))
    else requireSequences (edge.sequenceIdentity :: childSequences) edges

/-- `tuple(sorted(oids))!r`. -/
def oidsText (oids : Finset Int) : String :=
  match oids.sort (· ≤ ·) with
  | [oid] => s!"({oid},)"
  | sorted => "(" ++ ", ".intercalate (sorted.map toString) ++ ")"

/-- The rounds of the search that suffice for the edges. -/
def searchRounds (root : Int) (edges : List InheritanceEdge) : ℕ :=
  2 + ∑ oid ∈ insert root (edges.map (·.childRelationOid)).toFinset,
    ((childrenOf edges oid).length + 2)

/-- `_validate_composition_reachability`, of at most `rounds` rounds of its loop. -/
def validateCompositionReachability (rounds : ℕ) (root : Int) (memberOids : Finset Int)
    (edges : List InheritanceEdge) : Option (Except Refusal Unit) :=
  match requireSequences [] edges with
  | .error refusal => some (.error refusal)
  | .ok () =>
    (DepthFirst.search (childrenOf edges) rounds (DepthFirst.start root)).map fun outcome =>
      match outcome with
      | .cycle oid => .error (compositionError
          s!"PostgreSQL relation composition contains an inheritance cycle: relation_oid={oid}")
      | .unmarked oid => .error { error := .keyError, message := toString oid }
      | .done reachable =>
        refuseIf (reachable ≠ memberOids) (compositionError
          ("PostgreSQL relation composition contains members unreachable from its root: "
            ++ "unreachable_oids=" ++ oidsText (memberOids \ reachable)))

/-! ## Members -/

/-- `PostgresRelation`: its schema and its name. -/
structure Relation where
  schemaName : String
  relationName : String
  deriving DecidableEq, Repr

/-- `relation.components!r`. -/
def Relation.text (relation : Relation) : String :=
  s!"('{relation.schemaName}', '{relation.relationName}')"

/-- `PostgresRelation(components)` with the checks of its `__post_init__`. -/
def Relation.make (schemaName relationName : String) : Except Refusal Relation := do
  refuseIf (Char.ofNat 0 ∈ schemaName.toList ∨ Char.ofNat 0 ∈ relationName.toList)
    { error := .postgresLoweringError
      message := "PostgreSQL relation component must not contain U+0000" }
  return { schemaName, relationName }

inductive RelationKind where
  | regular
  | partitioned
  deriving DecidableEq, Repr

/-- `PostgresRelationKind(value)`. -/
def RelationKind.ofValue : String → Option RelationKind
  | "r" => some .regular
  | "p" => some .partitioned
  | _ => none

def RelationKind.value : RelationKind → String
  | .regular => "r"
  | .partitioned => "p"

/-- `_PostgresRelationMemberCandidate`. -/
structure MemberCandidate where
  relation : Relation
  relationOid : Int
  relationRowTypeOid : Int
  namespaceOid : Int
  relationKind : RelationKind
  relationPersistence : String
  deriving DecidableEq, Repr

/-- `PostgresRelationAcquisition`: what the candidate is checked against. -/
structure Acquisition where
  relation : Relation
  columnNames : List String

/-- `_validate_discovered_relation`. -/
def validateDiscoveredRelation (requested relation : Relation) (relationKind : RelationKind)
    (relationPersistence : String)
    (hasSelect rowSecurity forceRowSecurity hasSchemaUsage : Bool) : Except Refusal Unit := do
  refuseIf (relationPersistence ≠ "p") (metadataError
    ("PostgreSQL protected relation must be permanent: "
      ++ s!"root={requested.text}, relation={relation.text}, "
      ++ s!"relation_kind='{relationKind.value}', relpersistence='{relationPersistence}', "
      ++ "required='p'"))
  refuseIf (hasSchemaUsage = false) (metadataError
    ("PostgreSQL protected relation lacks direct schema USAGE privilege for the read "
      ++ s!"role: relation={relation.text}"))
  refuseIf (hasSelect = false) (metadataError
    ("PostgreSQL protected relation lacks direct SELECT privilege for the read role: "
      ++ s!"relation={relation.text}"))
  refuseIf (rowSecurity = true ∨ forceRowSecurity = true) (metadataError
    ("PostgreSQL protected relation enables row-level security, which is unsupported: "
      ++ s!"relation={relation.text}, row_security={boolText rowSecurity}, "
      ++ s!"force_row_security={boolText forceRowSecurity}"))
where
  boolText (value : Bool) : String := if value = true then "True" else "False"

/-- `_member_candidate_from_values`, of the first eleven values of a row. -/
def memberCandidateFromValues (acquisition : Acquisition) (values : DatabaseRow) :
    Except Refusal MemberCandidate := do
  let relationOid ← requireBoundedInteger (values.getD 0 .null) "candidate relation OID" 1 uint32Max
  let relationRowTypeOid ← requireBoundedInteger (values.getD 1 .null)
    "candidate relation row type OID" 1 uint32Max
  let namespaceOid ← requireBoundedInteger (values.getD 2 .null) "candidate namespace OID" 1
    uint32Max
  let schemaName ← requireText (values.getD 3 .null) "candidate relation schema"
  let relationName ← requireText (values.getD 4 .null) "candidate relation name"
  let relation ← Relation.make schemaName relationName
  let relationKindText ← requireText (values.getD 5 .null) "candidate relation kind"
  let relationKind ← (RelationKind.ofValue relationKindText).elim
    (.error (metadataError
      ("PostgreSQL frozen physical union contains an unsupported relation kind: "
        ++ s!"relation={relation.text}, relation_kind='{relationKindText}', "
        ++ "allowed=('p', 'r')"))) .ok
  let relationPersistence ← requireText (values.getD 6 .null) "candidate relation persistence"
  let hasSelect ← requireBoolean (values.getD 7 .null) "candidate relation SELECT privilege"
  let rowSecurity ← requireBoolean (values.getD 8 .null) "candidate relation RLS enabled"
  let forceRowSecurity ← requireBoolean (values.getD 9 .null) "candidate relation RLS forced"
  let hasSchemaUsage ← requireBoolean (values.getD 10 .null) "candidate schema USAGE privilege"
  validateDiscoveredRelation acquisition.relation relation relationKind relationPersistence
    hasSelect rowSecurity forceRowSecurity hasSchemaUsage
  return { relation, relationOid, relationRowTypeOid, namespaceOid, relationKind,
           relationPersistence }

/-! ## The rows of a hierarchy -/

/-- The parent of a row: none, or an attached edge. -/
def edgeFromValues (index : ℕ) (childOid : Int) (values : DatabaseRow) :
    Except Refusal (Option InheritanceEdge) := do
  let parentOid ← requireOptionalInteger (values.getD 12 .null)
    s!"hierarchy parent OID at row {index}"
  let sequence ← requireOptionalInteger (values.getD 13 .null) s!"hierarchy sequence at row {index}"
  match parentOid, sequence with
  | some parentOid, some sequence =>
    let detachPending ← requireBoolean (values.getD 14 .null)
      s!"hierarchy detach state at row {index}"
    refuseIf (detachPending = true)
      { error := .postgresAcquisitionRaceError
        message := "PostgreSQL hierarchy contains an inheritance edge pending detach: "
          ++ s!"parent_oid={parentOid}, child_oid={childOid}, inhseqno={sequence}" }
    let edge ← InheritanceEdge.make parentOid childOid sequence
    return some edge
  | parentOid, sequence =>
    refuseIf (parentOid ≠ none ∨ sequence ≠ none ∨ values.getD 14 .null ≠ .null) (metadataError
      s!"PostgreSQL hierarchy returned a malformed partial inheritance edge: row={index}")
    return none

/-- The dictionaries and sets that the loop fills. -/
structure Discovery where
  membersByOid : List (Int × MemberCandidate)
  oidsByRelation : List (Relation × Int)
  edgesByIdentity : List ((Int × Int) × InheritanceEdge)
  rootOids : Finset Int
  maxIdentifierLengths : Finset Int

def Discovery.empty : Discovery where
  membersByOid := []
  oidsByRelation := []
  edgesByIdentity := []
  rootOids := ∅
  maxIdentifierLengths := ∅

/-- `previous = entries.get(key)`, a refusal of another value, `entries[key] = value`. -/
def agreeOr {κ ν : Type} [DecidableEq κ] [DecidableEq ν] (entries : List (κ × ν)) (key : κ)
    (value : ν) (refusal : Refusal) : Except Refusal (List (κ × ν)) :=
  (agree entries key value).elim (.error refusal) .ok

/-- One round of the loop over the rows. -/
def readCatalogRow (acquisition : Acquisition) (index : ℕ) (found : Discovery)
    (row : DatabaseRow) : Except Refusal Discovery := do
  refuseIf (row.length ≠ 16) (dataValidationError
    ("PostgreSQL frozen physical union discovery returned an unexpected field "
      ++ s!"count: row={index}, expected=16, actual={row.length}"))
  let member ← memberCandidateFromValues acquisition (row.take 11)
  let membersByOid ← agreeOr found.membersByOid member.relationOid member (metadataError
    ("PostgreSQL hierarchy maps one OID to conflicting member identities: "
      ++ s!"relation_oid={member.relationOid}"))
  let oidsByRelation ← agreeOr found.oidsByRelation member.relation member.relationOid
    (metadataError ("PostgreSQL hierarchy maps one qualified name to conflicting OIDs: "
      ++ s!"relation={member.relation.text}"))
  let isRoot ← requireBoolean (row.getD 11 .null) s!"hierarchy root marker at row {index}"
  let edge ← edgeFromValues index member.relationOid row
  let edgesByIdentity ← edge.elim (.ok found.edgesByIdentity) fun edge =>
    agreeOr found.edgesByIdentity (edge.parentRelationOid, edge.childRelationOid) edge
      (metadataError ("PostgreSQL hierarchy returned conflicting direct-edge metadata: "
        ++ s!"parent_oid={edge.parentRelationOid}, child_oid={edge.childRelationOid}"))
  let maxIdentifierLength ← requireBoundedInteger (row.getD 15 .null)
    s!"candidate max_identifier_length at row {index}" 1 int64Max
  return { membersByOid, oidsByRelation, edgesByIdentity
           rootOids := if isRoot = true then insert member.relationOid found.rootOids
             else found.rootOids
           maxIdentifierLengths := insert maxIdentifierLength found.maxIdentifierLengths }

/-- The loop over the rows from `index` on. -/
def readCatalogRows (acquisition : Acquisition) (index : ℕ) (found : Discovery) :
    List DatabaseRow → Except Refusal Discovery
  | [] => .ok found
  | row :: rows => do
    let found ← readCatalogRow acquisition index found row
    readCatalogRows acquisition (index + 1) found rows

/-! ## The candidate -/

/-- `MAX_COMPILED_RELATION_MEMBERS`. -/
def maxCompiledRelationMembers : ℕ := 1600

/-- `_validate_identifier_bytes`. -/
def validateIdentifierBytes (value context : String) (maximumBytes : Int) : Except Refusal Unit :=
  refuseIf (maximumBytes < value.utf8ByteSize) (metadataError
    (s!"PostgreSQL {context} exceeds the probed identifier limit: "
      ++ s!"utf8_bytes={value.utf8ByteSize}, maximum={maximumBytes}"))

/-- `_validate_relation_identifiers`. -/
def validateRelationIdentifiers (relation : Relation) (maximumBytes : Int) :
    Except Refusal Unit := do
  validateIdentifierBytes relation.schemaName "relation component 0" maximumBytes
  validateIdentifierBytes relation.relationName "relation component 1" maximumBytes

/-- `_validate_column_identifiers`. -/
def validateColumnIdentifiers (columnNames : List String) (maximumBytes : Int) :
    Except Refusal Unit :=
  columnNames.zipIdx.forM fun (columnName, index) =>
    validateIdentifierBytes columnName s!"column identifier {index}" maximumBytes

/-- The order of the members. -/
def MemberCandidate.orderKey (member : MemberCandidate) : (String ×ₗ String) ×ₗ Int :=
  toLex (toLex (member.relation.schemaName, member.relation.relationName), member.relationOid)

/-- The order of the edges. -/
def InheritanceEdge.orderKey (edge : InheritanceEdge) : Int ×ₗ Int ×ₗ Int :=
  toLex (edge.parentRelationOid, toLex (edge.sequence, edge.childRelationOid))

/-- `_PostgresRelationCandidate`. -/
structure RelationCandidate where
  rootRelationOid : Int
  members : List MemberCandidate
  edges : List InheritanceEdge
  deriving DecidableEq

/-- The edges found, in order. -/
def Discovery.edges (found : Discovery) : List InheritanceEdge :=
  (found.edgesByIdentity.map Prod.snd).insertionSort fun a b => a.orderKey ≤ b.orderKey

/-- The members found, in order. -/
def Discovery.members (found : Discovery) : List MemberCandidate :=
  (found.membersByOid.map Prod.snd).insertionSort fun a b => a.orderKey ≤ b.orderKey

/-- `_frozen_candidate_from_rows`, after the loop over the rows. -/
def frozenCandidate (acquisition : Acquisition) (found : Discovery) :
    Except Refusal RelationCandidate :=
  match found.rootOids.sort (· ≤ ·) with
  | [rootRelationOid] => do
    refuseIf (maxCompiledRelationMembers < found.membersByOid.length) (metadataError
      ("PostgreSQL frozen physical union exceeds the compiled-query member limit: "
        ++ s!"members={found.membersByOid.length}, maximum={maxCompiledRelationMembers}"))
    let root ← (found.membersByOid.find? fun entry => decide (entry.1 = rootRelationOid)).elim
      (.error { error := .keyError, message := toString rootRelationOid }) .ok
    refuseIf (root.2.relation ≠ acquisition.relation) (metadataError
      ("PostgreSQL frozen physical union root changed qualified identity: "
        ++ s!"requested={acquisition.relation.text}, actual={root.2.relation.text}"))
    match found.maxIdentifierLengths.sort (· ≤ ·) with
    | [maxIdentifierUtf8Bytes] =>
      found.membersByOid.forM fun entry =>
        validateRelationIdentifiers entry.2.relation maxIdentifierUtf8Bytes
      validateColumnIdentifiers acquisition.columnNames maxIdentifierUtf8Bytes
      match validateCompositionReachability (searchRounds rootRelationOid found.edges)
          rootRelationOid (found.membersByOid.map Prod.fst).toFinset found.edges with
      | some (.ok ()) =>
        return { rootRelationOid, members := found.members, edges := found.edges }
      | some (.error refusal) =>
        .error (metadataError ("PostgreSQL hierarchy graph is malformed: "
          ++ s!"root_relation_oid={rootRelationOid}, reason={refusal.message}"))
      | none => .error (metadataError "PostgreSQL hierarchy graph search did not end")
    | _ => .error (dataValidationError
        "PostgreSQL hierarchy returned inconsistent max_identifier_length values")
  | _ => .error (metadataError
      ("PostgreSQL frozen physical union discovery did not identify exactly one root: "
        ++ s!"root_oids={oidsText found.rootOids}"))

/-- `_frozen_candidate_from_rows`. -/
def frozenCandidateFromRows (acquisition : Acquisition) (rows : List DatabaseRow) :
    Except Refusal RelationCandidate := do
  let found ← readCatalogRows acquisition 0 .empty rows
  frozenCandidate acquisition found

end ForensicData.Postgres
