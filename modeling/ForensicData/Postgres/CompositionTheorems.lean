/-
ForensicData.Postgres.CompositionTheorems — hierarchies that are accepted.

The check of a hierarchy ends, and accepts exactly the graphs without a repeated
sequence, without a cycle and with every member below the root
(`validateCompositionReachability_spec`). What a row contributes does not depend
on its place, so the candidate of the rows is that of any arrangement of them
(`frozenCandidateFromRows_perm`).
-/
import Mathlib.Data.Int.ConditionallyCompleteOrder
import Mathlib.Order.ConditionallyCompleteLattice.Finset
import ForensicData.Postgres.Composition
import Mathlib.Data.List.Perm.Basic

namespace ForensicData.Postgres

open ForensicData.Canonical
open ForensicData.Comparison.Postgres (DatabaseValue DatabaseRow)
open ForensicData.Lib
open ForensicData.Lib.DepthFirst (Edge)

/-! ## The graph -/

section Graph

variable {edges : List InheritanceEdge} {root : Int} {memberOids : Finset Int}

/-- An edge of the graph from a relation to one that inherits it. -/
theorem edge_childrenOf {parent child : Int} :
    Edge (childrenOf edges) parent child ↔
      ∃ edge ∈ edges, edge.parentRelationOid = parent ∧ edge.childRelationOid = child := by
  simp [Edge, childrenOf, and_assoc]

theorem requireSequences_eq_ok {childSequences : List (Int × Int)} :
    requireSequences childSequences edges = .ok () ↔
      (edges.map InheritanceEdge.sequenceIdentity).Nodup ∧
        ∀ edge ∈ edges, edge.sequenceIdentity ∉ childSequences := by
  induction edges generalizing childSequences with
  | nil => simp [requireSequences]
  | cons edge edges ih =>
    rw [requireSequences]
    split
    · rename_i hrepeated
      simp [hrepeated]
    · rename_i hfresh
      rw [ih, List.map_cons, List.nodup_cons, List.forall_mem_cons]
      constructor
      · rintro ⟨hnodup, hrest⟩
        refine ⟨⟨?_, hnodup⟩, hfresh, fun other hother hmem => ?_⟩
        · intro hmem
          rcases List.mem_map.mp hmem with ⟨other, hother, heq⟩
          exact hrest other hother (by rw [heq]; exact List.mem_cons_self)
        · exact hrest other hother (List.mem_cons_of_mem _ hmem)
      · rintro ⟨⟨hout, hnodup⟩, -, hrest⟩
        refine ⟨hnodup, fun other hother hmem => ?_⟩
        rcases List.mem_cons.mp hmem with heq | hmem
        · exact hout (List.mem_map.mpr ⟨other, hother, heq⟩)
        · exact hrest other hother hmem

/-- The search ends within its rounds. -/
theorem search_childrenOf {rounds : ℕ} (hrounds : searchRounds root edges ≤ rounds) :
    ∃ outcome, DepthFirst.search (childrenOf edges) rounds (DepthFirst.start root) = some outcome ∧
      outcome.Sound (childrenOf edges) root := by
  apply @DepthFirst.search_spec _ _ _ root (insert root (edges.map (·.childRelationOid)).toFinset)
  · intro node hnode
    induction hnode with
    | refl => exact Finset.mem_insert_self _ _
    | tail _ hedge _ =>
      rcases edge_childrenOf.mp hedge with ⟨edge, hmem, -, rfl⟩
      apply Finset.mem_insert_of_mem
      rw [List.mem_toFinset]
      exact List.mem_map.mpr ⟨edge, hmem, rfl⟩
  · unfold searchRounds at hrounds
    omega

/-- The check of any edges ends; what it accepts is that no sequence is repeated
and the members are the relations below the root, none of them on a cycle. -/
theorem validateCompositionReachability_ends {rounds : ℕ}
    (hrounds : searchRounds root edges ≤ rounds) :
    ∃ result, validateCompositionReachability rounds root memberOids edges = some result ∧
      (result = .ok () ↔ (edges.map InheritanceEdge.sequenceIdentity).Nodup ∧
        (∀ oid, oid ∈ memberOids ↔ Relation.ReflTransGen (Edge (childrenOf edges)) root oid) ∧
        ∀ oid ∈ memberOids, ¬ Relation.TransGen (Edge (childrenOf edges)) oid oid) := by
  have hsequences := @requireSequences_eq_ok edges []
  simp only [List.not_mem_nil, not_false_eq_true, implies_true, and_true] at hsequences
  unfold validateCompositionReachability
  cases hcheck : requireSequences [] edges with
  | error refusal =>
    refine ⟨_, rfl, ?_⟩
    rw [← hsequences, hcheck]
    simp
  | ok _ =>
    have hnodup := hsequences.mp hcheck
    rcases search_childrenOf hrounds with ⟨outcome, hsearch, hsound⟩
    refine ⟨_, by rw [hsearch]; rfl, ?_⟩
    cases outcome with
    | unmarked oid => exact hsound.elim
    | cycle oid =>
      simp only [hnodup, true_and, reduceCtorEq, false_iff, not_and]
      intro hmembers hacyclic
      exact hacyclic oid ((hmembers oid).mpr hsound.1) hsound.2
    | done reachable =>
      rw [refuseIf_eq_ok, not_not]
      constructor
      · rintro rfl
        exact ⟨hnodup, hsound⟩
      · rintro ⟨-, hmembers, -⟩
        ext oid
        rw [hsound.1, hmembers]

/-- For edges between members, the check accepts exactly the graphs without a
repeated sequence and without a cycle whose members are all below the root. -/
theorem validateCompositionReachability_spec {rounds : ℕ}
    (hrounds : searchRounds root edges ≤ rounds) (hroot : root ∈ memberOids)
    (hedges : ∀ edge ∈ edges, edge.parentRelationOid ∈ memberOids ∧
      edge.childRelationOid ∈ memberOids) :
    ∃ result, validateCompositionReachability rounds root memberOids edges = some result ∧
      (result = .ok () ↔ (edges.map InheritanceEdge.sequenceIdentity).Nodup ∧
        (∀ oid, ¬ Relation.TransGen (Edge (childrenOf edges)) oid oid) ∧
        ∀ oid ∈ memberOids, Relation.ReflTransGen (Edge (childrenOf edges)) root oid) := by
  rcases @validateCompositionReachability_ends edges root memberOids rounds hrounds
    with ⟨result, hresult, hiff⟩
  refine ⟨result, hresult, hiff.trans ⟨?_, ?_⟩⟩
  · rintro ⟨hnodup, hmembers, hacyclic⟩
    refine ⟨hnodup, fun oid hcycle => ?_, fun oid hoid => (hmembers oid).mp hoid⟩
    have hmember : oid ∈ memberOids := by
      rcases Relation.TransGen.tail'_iff.mp hcycle with ⟨parent, -, hedge⟩
      rcases edge_childrenOf.mp hedge with ⟨edge, hmem, -, rfl⟩
      exact (hedges edge hmem).2
    exact hacyclic oid hmember hcycle
  · rintro ⟨hnodup, hacyclic, hmembers⟩
    refine ⟨hnodup, fun oid => ⟨hmembers oid, fun hreached => ?_⟩, fun oid _ => hacyclic oid⟩
    induction hreached with
    | refl => exact hroot
    | tail _ hedge _ =>
      rcases edge_childrenOf.mp hedge with ⟨edge, hmem, -, rfl⟩
      exact (hedges edge hmem).2

end Graph

/-! ## What a row says -/

theorem requireInteger_eq_ok {value : DatabaseValue} {fieldName : String} {n : Int} :
    requireInteger value fieldName = .ok n ↔ value = .integer n := by
  cases value <;> simp [requireInteger]

theorem requireBoundedInteger_eq_ok {value : DatabaseValue} {fieldName : String}
    {minimum maximum n : Int} :
    requireBoundedInteger value fieldName minimum maximum = .ok n ↔
      value = .integer n ∧ minimum ≤ n ∧ n ≤ maximum := by
  simp only [requireBoundedInteger, bind_eq_ok, requireInteger_eq_ok, refuseIf_eq_ok, not_not,
    pure_eq_ok]
  constructor
  · rintro ⟨m, hvalue, -, hbounds, rfl⟩
    exact ⟨hvalue, hbounds⟩
  · rintro ⟨hvalue, hbounds⟩
    exact ⟨n, hvalue, (), hbounds, rfl⟩

theorem requireBoolean_eq_ok {value : DatabaseValue} {fieldName : String} {b : Bool} :
    requireBoolean value fieldName = .ok b ↔ value = .boolean b := by
  cases value <;> simp [requireBoolean]

/-- The integer of a value that may be null. -/
def OptionalInteger (value : DatabaseValue) (n : Option Int) : Prop :=
  value = .null ∧ n = none ∨ ∃ m, value = .integer m ∧ n = some m

theorem requireOptionalInteger_eq_ok {value : DatabaseValue} {fieldName : String}
    {n : Option Int} :
    requireOptionalInteger value fieldName = .ok n ↔ OptionalInteger value n := by
  cases value <;>
    simp [requireOptionalInteger, requireInteger, OptionalInteger, Except.map, eq_comm]

/-- The edge of a row. -/
def EdgeOf (childOid : Int) (values : DatabaseRow) (edge : Option InheritanceEdge) : Prop :=
  ∃ parentOid sequence, OptionalInteger (values.getD 12 .null) parentOid ∧
    OptionalInteger (values.getD 13 .null) sequence ∧
    (parentOid = none ∧ sequence = none ∧ values.getD 14 .null = .null ∧ edge = none ∨
      ∃ parent order own, parentOid = some parent ∧ sequence = some order ∧
        values.getD 14 .null = .boolean false ∧
        InheritanceEdge.make parent childOid order = .ok own ∧ edge = some own)

theorem edgeFromValues_eq_ok {index : ℕ} {childOid : Int} {values : DatabaseRow}
    {edge : Option InheritanceEdge} :
    edgeFromValues index childOid values = .ok edge ↔ EdgeOf childOid values edge := by
  simp only [edgeFromValues, bind_eq_ok, requireOptionalInteger_eq_ok, EdgeOf]
  refine exists_congr fun parentOid => ?_
  constructor
  · rintro ⟨hparent, sequence, hsequence, h⟩
    refine ⟨sequence, hparent, hsequence, ?_⟩
    split at h
    · rename_i parent order
      rcases bind_eq_ok.mp h with ⟨detachPending, hdetach, h⟩
      rcases bind_unit_eq_ok.mp h with ⟨hattached, h⟩
      rcases bind_eq_ok.mp h with ⟨own, hown, h⟩
      cases h
      rw [requireBoolean_eq_ok] at hdetach
      rw [refuseIf_eq_ok, Bool.not_eq_true] at hattached
      exact .inr ⟨parent, order, own, rfl, rfl, hattached ▸ hdetach, hown, rfl⟩
    · rcases bind_unit_eq_ok.mp h with ⟨hnone, h⟩
      cases h
      rw [refuseIf_eq_ok] at hnone
      simp only [not_or, ne_eq, not_not] at hnone
      exact .inl ⟨hnone.1, hnone.2.1, hnone.2.2, rfl⟩
  · rintro ⟨sequence, hparent, hsequence, h⟩
    refine ⟨hparent, sequence, hsequence, ?_⟩
    rcases h with ⟨rfl, rfl, hnull, rfl⟩ | ⟨parent, order, own, rfl, rfl, hdetach, hown, rfl⟩
    · dsimp only
      rw [bind_unit_eq_ok, refuseIf_eq_ok]
      exact ⟨by simpa using hnull, rfl⟩
    · dsimp only
      rw [bind_eq_ok]
      refine ⟨false, requireBoolean_eq_ok.mpr hdetach, ?_⟩
      rw [bind_unit_eq_ok, refuseIf_eq_ok, bind_eq_ok]
      exact ⟨by simp, own, hown, rfl⟩

/-- What a row contributes. -/
structure CatalogRow where
  member : MemberCandidate
  isRoot : Bool
  edge : Option InheritanceEdge
  maxIdentifierLength : Int

def CatalogRow.memberEntry (row : CatalogRow) : Int × MemberCandidate :=
  (row.member.relationOid, row.member)

def CatalogRow.oidEntry (row : CatalogRow) : Relation × Int :=
  (row.member.relation, row.member.relationOid)

def CatalogRow.edgeEntry (row : CatalogRow) : Option ((Int × Int) × InheritanceEdge) :=
  row.edge.map fun edge => ((edge.parentRelationOid, edge.childRelationOid), edge)

/-- The values of a row are those of a contribution, wherever the row stands. -/
def ReadsAs (acquisition : Acquisition) (values : DatabaseRow) (row : CatalogRow) : Prop :=
  values.length = 16 ∧
    memberCandidateFromValues acquisition (values.take 11) = .ok row.member ∧
    values.getD 11 .null = .boolean row.isRoot ∧
    EdgeOf row.member.relationOid values row.edge ∧
    values.getD 15 .null = .integer row.maxIdentifierLength ∧
    1 ≤ row.maxIdentifierLength ∧ row.maxIdentifierLength ≤ int64Max

/-- The discovery after a row. -/
def Absorbs (found next : Discovery) (row : CatalogRow) : Prop :=
  agree found.membersByOid row.memberEntry.1 row.memberEntry.2 = some next.membersByOid ∧
    agree found.oidsByRelation row.oidEntry.1 row.oidEntry.2 = some next.oidsByRelation ∧
    agreeAll found.edgesByIdentity row.edgeEntry.toList = some next.edgesByIdentity ∧
    next.rootOids = found.rootOids ∪ (if row.isRoot = true then {row.member.relationOid} else ∅) ∧
    next.maxIdentifierLengths = insert row.maxIdentifierLength found.maxIdentifierLengths

theorem agreeOr_eq_ok {κ ν : Type} [DecidableEq κ] [DecidableEq ν] {entries next : List (κ × ν)}
    {key : κ} {value : ν} {refusal : Refusal} :
    agreeOr entries key value refusal = .ok next ↔ agree entries key value = some next := by
  unfold agreeOr
  cases agree entries key value <;> simp

theorem rootOids_insert {isRoot : Bool} {oid : Int} {oids : Finset Int} :
    (if isRoot = true then insert oid oids else oids)
      = oids ∪ (if isRoot = true then {oid} else ∅) := by
  cases isRoot with
  | true => exact (Finset.insert_eq oid oids).trans (Finset.union_comm {oid} oids)
  | false => exact (Finset.union_empty oids).symm

theorem readCatalogRow_eq_ok {acquisition : Acquisition} {index : ℕ} {found next : Discovery}
    {values : DatabaseRow} :
    readCatalogRow acquisition index found values = .ok next ↔
      ∃ row, ReadsAs acquisition values row ∧ Absorbs found next row := by
  simp only [readCatalogRow, bind_eq_ok, refuseIf_eq_ok, ne_eq, not_not,
    agreeOr_eq_ok, requireBoolean_eq_ok, edgeFromValues_eq_ok, requireBoundedInteger_eq_ok,
    pure_eq_ok]
  constructor
  · rintro ⟨-, hlength, member, hmember, membersByOid, hmembers, oidsByRelation, hoids, isRoot, hroot,
      edge, hedge, edgesByIdentity, hedges, maxIdentifierLength, ⟨hmax, hlow, hhigh⟩, rfl⟩
    refine ⟨⟨member, isRoot, edge, maxIdentifierLength⟩,
      ⟨hlength, hmember, hroot, hedge, hmax, hlow, hhigh⟩, hmembers, hoids, ?_, ?_, rfl⟩
    · cases edge with
      | none => simpa [CatalogRow.edgeEntry, agreeAll] using hedges
      | some own =>
        have hown := agreeOr_eq_ok.mp hedges
        simp [CatalogRow.edgeEntry, agreeAll, hown]
    · exact rootOids_insert
  · rintro ⟨⟨member, isRoot, edge, maxIdentifierLength⟩,
      ⟨hlength, hmember, hroot, hedge, hmax, hlow, hhigh⟩, hmembers, hoids, hedges, hroots, hmaxes⟩
    refine ⟨(), hlength, member, hmember, next.membersByOid, hmembers, next.oidsByRelation, hoids,
      isRoot, hroot, edge, hedge, next.edgesByIdentity, ?_, maxIdentifierLength,
      ⟨hmax, hlow, hhigh⟩, ?_⟩
    · cases edge with
      | none => simpa [CatalogRow.edgeEntry, agreeAll] using hedges
      | some own =>
        have hown : agree found.edgesByIdentity (own.parentRelationOid, own.childRelationOid) own
            = some next.edgesByIdentity := by
          simpa [CatalogRow.edgeEntry, agreeAll] using hedges
        exact agreeOr_eq_ok.mpr hown
    · have hrootOids : (if isRoot = true then insert member.relationOid found.rootOids
          else found.rootOids) = next.rootOids := by
        rw [hroots]
        exact rootOids_insert
      rw [hrootOids, ← hmaxes]

/-! ## The rows together -/

/-- The discovery after some rows. -/
def AbsorbsAll (found next : Discovery) (rows : List CatalogRow) : Prop :=
  agreeAll found.membersByOid (rows.map CatalogRow.memberEntry) = some next.membersByOid ∧
    agreeAll found.oidsByRelation (rows.map CatalogRow.oidEntry) = some next.oidsByRelation ∧
    agreeAll found.edgesByIdentity (rows.filterMap CatalogRow.edgeEntry)
      = some next.edgesByIdentity ∧
    next.rootOids = found.rootOids ∪
      ((rows.filter (·.isRoot)).map (·.member.relationOid)).toFinset ∧
    next.maxIdentifierLengths
      = found.maxIdentifierLengths ∪ (rows.map (·.maxIdentifierLength)).toFinset

theorem agreeAll_append {κ ν : Type} [DecidableEq κ] [DecidableEq ν]
    (entries pairs other : List (κ × ν)) :
    agreeAll entries (pairs ++ other)
      = (agreeAll entries pairs).bind fun mid => agreeAll mid other := by
  simp [agreeAll, List.foldlM_append]

theorem absorbsAll_cons {found next : Discovery} {row : CatalogRow} {rows : List CatalogRow} :
    AbsorbsAll found next (row :: rows) ↔
      ∃ mid, Absorbs found mid row ∧ AbsorbsAll mid next rows := by
  have hedges : (row :: rows).filterMap CatalogRow.edgeEntry
      = row.edgeEntry.toList ++ rows.filterMap CatalogRow.edgeEntry := by
    rw [List.filterMap_cons]
    cases row.edgeEntry <;> simp
  have hroots : ((row :: rows).filter (·.isRoot)).map (·.member.relationOid)
      = (if row.isRoot = true then [row.member.relationOid] else [])
        ++ (rows.filter (·.isRoot)).map (·.member.relationOid) := by
    rw [List.filter_cons]
    split <;> simp
  have hown : (if row.isRoot = true then [row.member.relationOid] else []).toFinset
      = if row.isRoot = true then {row.member.relationOid} else ∅ := by
    split <;> simp
  unfold AbsorbsAll Absorbs
  rw [hedges, hroots, agreeAll_append, List.toFinset_append, hown]
  simp only [List.map_cons, agreeAll, List.foldlM_cons, Option.bind_eq_bind,
    Option.bind_eq_some_iff, List.toFinset_cons]
  constructor
  · rintro ⟨⟨members, hmember, hmembers⟩, ⟨oids, hoid, hoids⟩, ⟨edges, hedge, hedges⟩, hroots,
      hmaxes⟩
    exact ⟨⟨members, oids, edges, _, _⟩, ⟨hmember, hoid, hedge, rfl, rfl⟩, hmembers, hoids, hedges,
      by rw [hroots, Finset.union_assoc], by rw [hmaxes, Finset.insert_union, Finset.union_insert]⟩
  · rintro ⟨mid, ⟨hmember, hoid, hedge, hroot, hmax⟩, hmembers, hoids, hedges, hroots, hmaxes⟩
    exact ⟨⟨_, hmember, hmembers⟩, ⟨_, hoid, hoids⟩, ⟨_, hedge, hedges⟩,
      by rw [hroots, hroot, Finset.union_assoc],
      by rw [hmaxes, hmax, Finset.insert_union, Finset.union_insert]⟩

theorem readCatalogRows_eq_ok {acquisition : Acquisition} {index : ℕ} {found next : Discovery}
    {rows : List DatabaseRow} :
    readCatalogRows acquisition index found rows = .ok next ↔
      ∃ read, List.Forall₂ (ReadsAs acquisition) rows read ∧ AbsorbsAll found next read := by
  induction rows generalizing index found with
  | nil =>
    simp only [readCatalogRows, Except.ok.injEq, List.forall₂_nil_left_iff, exists_eq_left]
    constructor
    · rintro rfl
      simp [AbsorbsAll, agreeAll]
    · rintro ⟨hmembers, hoids, hedges, hroots, hmaxes⟩
      cases found
      cases next
      simp_all [agreeAll]
  | cons values rows ih =>
    simp only [readCatalogRows, bind_eq_ok, readCatalogRow_eq_ok, ih]
    constructor
    · rintro ⟨mid, ⟨row, hrow, hmid⟩, read, hread, hnext⟩
      exact ⟨row :: read, .cons hrow hread, absorbsAll_cons.mpr ⟨mid, hmid, hnext⟩⟩
    · rintro ⟨read, hread, hnext⟩
      cases hread with
      | cons hrow hread =>
        rcases absorbsAll_cons.mp hnext with ⟨mid, hmid, hnext⟩
        exact ⟨mid, ⟨_, hrow, hmid⟩, _, hread, hnext⟩

/-! ## Rearranged rows -/

/-- Dictionaries under the identities of their values. -/
structure Discovery.Keyed (found : Discovery) : Prop where
  membersOnce : KeysOnce found.membersByOid
  memberKey : ∀ entry ∈ found.membersByOid, entry.1 = entry.2.relationOid
  edgesOnce : KeysOnce found.edgesByIdentity
  edgeKey : ∀ entry ∈ found.edgesByIdentity,
    entry.1 = (entry.2.parentRelationOid, entry.2.childRelationOid)

/-- Discoveries that differ in the order of their dictionaries. -/
structure Discovery.Rearranged (found other : Discovery) : Prop where
  members : found.membersByOid.Perm other.membersByOid
  edges : found.edgesByIdentity.Perm other.edgesByIdentity
  rootOids : found.rootOids = other.rootOids
  maxIdentifierLengths : found.maxIdentifierLengths = other.maxIdentifierLengths

theorem AbsorbsAll.keyed {found : Discovery} {rows : List CatalogRow}
    (h : AbsorbsAll .empty found rows) : found.Keyed := by
  rcases h with ⟨hmembers, -, hedges, -, -⟩
  rcases agreeAll_keysOnce keysOnce_nil hmembers with ⟨hmembersOnce, hmemberMem⟩
  rcases agreeAll_keysOnce keysOnce_nil hedges with ⟨hedgesOnce, hedgeMem⟩
  refine ⟨hmembersOnce, fun entry hentry => ?_, hedgesOnce, fun entry hentry => ?_⟩
  · have hread := (hmemberMem entry).mp hentry
    simp only [List.not_mem_nil, false_or, List.mem_map] at hread
    rcases hread with ⟨row, -, rfl⟩
    rfl
  · have hread := (hedgeMem entry).mp hentry
    simp only [List.not_mem_nil, false_or, List.mem_filterMap, CatalogRow.edgeEntry,
      Option.map_eq_some_iff] at hread
    rcases hread with ⟨row, -, edge, -, rfl⟩
    rfl

theorem AbsorbsAll.perm {found : Discovery} {rows other : List CatalogRow}
    (h : AbsorbsAll .empty found rows) (hperm : rows.Perm other) :
    ∃ next, AbsorbsAll .empty next other ∧ found.Rearranged next := by
  rcases h with ⟨hmembers, hoids, hedges, hroots, hmaxes⟩
  rcases agreeAll_perm (hperm.map CatalogRow.memberEntry) hmembers with ⟨members, hown, hmembers⟩
  rcases agreeAll_perm (hperm.map CatalogRow.oidEntry) hoids with ⟨oids, hoid, -⟩
  rcases agreeAll_perm (hperm.filterMap CatalogRow.edgeEntry) hedges with ⟨edges, hedge, hedges⟩
  have hrootOids := ((hperm.filter (·.isRoot)).map (·.member.relationOid))
  have hlengths := hperm.map (·.maxIdentifierLength)
  refine ⟨⟨members, oids, edges, found.rootOids, found.maxIdentifierLengths⟩,
    ⟨hown, hoid, hedge, ?_, ?_⟩, hmembers, hedges, rfl, rfl⟩
  · rw [hroots, List.toFinset_eq_of_perm _ _ hrootOids]
  · rw [hmaxes, List.toFinset_eq_of_perm _ _ hlengths]

/-- The rows of any arrangement are read alike. -/
theorem readCatalogRows_perm {acquisition : Acquisition} {rows other : List DatabaseRow}
    {found : Discovery} (hperm : rows.Perm other)
    (h : readCatalogRows acquisition 0 .empty rows = .ok found) :
    found.Keyed ∧ ∃ next, readCatalogRows acquisition 0 .empty other = .ok next ∧
      found.Rearranged next := by
  rcases readCatalogRows_eq_ok.mp h with ⟨read, hread, hfound⟩
  refine ⟨hfound.keyed, ?_⟩
  rcases List.perm_comp_forall₂ hperm.symm hread with ⟨read', hread', hreads⟩
  rcases hfound.perm hreads.symm with ⟨next, hnext, hrearranged⟩
  exact ⟨next, readCatalogRows_eq_ok.mpr ⟨read', hread', hnext⟩, hrearranged⟩

/-! ## The candidate of rearranged rows -/

section Rearranged

variable {found other : Discovery}

/-- A member of the dictionary is known by its OID, an edge by its ends. -/
theorem Discovery.Keyed.orderKeys (h : found.Keyed) :
    ((found.membersByOid.map Prod.snd).map MemberCandidate.orderKey).Nodup ∧
      ((found.edgesByIdentity.map Prod.snd).map InheritanceEdge.orderKey).Nodup := by
  have hmembers := h.membersOnce
  have hedges := h.edgesOnce
  unfold KeysOnce at hmembers hedges
  constructor
  · have hkeys : found.membersByOid.map Prod.fst
        = ((found.membersByOid.map Prod.snd).map MemberCandidate.orderKey).map
          fun key => (ofLex key).2 := by
      rw [List.map_map, List.map_map]
      exact List.map_congr_left h.memberKey
    rw [hkeys] at hmembers
    exact hmembers.of_map
  · have hkeys : found.edgesByIdentity.map Prod.fst
        = ((found.edgesByIdentity.map Prod.snd).map InheritanceEdge.orderKey).map
          fun key => ((ofLex key).1, (ofLex (ofLex key).2).2) := by
      rw [List.map_map, List.map_map]
      exact List.map_congr_left h.edgeKey
    rw [hkeys] at hedges
    exact hedges.of_map

theorem Discovery.Rearranged.sorted (h : found.Rearranged other) (hkeyed : found.Keyed) :
    found.members = other.members ∧ found.edges = other.edges :=
  ⟨insertionSort_perm hkeyed.orderKeys.1 (h.members.map Prod.snd),
    insertionSort_perm hkeyed.orderKeys.2 (h.edges.map Prod.snd)⟩

theorem frozenCandidate_eq_ok {acquisition : Acquisition} {candidate : RelationCandidate} :
    frozenCandidate acquisition found = .ok candidate ↔
      ∃ rootRelationOid root maxIdentifierUtf8Bytes,
        found.rootOids.sort (· ≤ ·) = [rootRelationOid] ∧
        found.membersByOid.length ≤ maxCompiledRelationMembers ∧
        (found.membersByOid.find? fun entry => decide (entry.1 = rootRelationOid)) = some root ∧
        root.2.relation = acquisition.relation ∧
        found.maxIdentifierLengths.sort (· ≤ ·) = [maxIdentifierUtf8Bytes] ∧
        (∀ entry ∈ found.membersByOid,
          validateRelationIdentifiers entry.2.relation maxIdentifierUtf8Bytes = .ok ()) ∧
        validateColumnIdentifiers acquisition.columnNames maxIdentifierUtf8Bytes = .ok () ∧
        validateCompositionReachability (searchRounds rootRelationOid found.edges)
          rootRelationOid (found.membersByOid.map Prod.fst).toFinset found.edges
            = some (.ok ()) ∧
        candidate = { rootRelationOid, members := found.members, edges := found.edges } := by
  unfold frozenCandidate
  constructor
  · intro h
    split at h
    case h_2 => cases h
    rename_i rootRelationOid hroots
    rcases bind_unit_eq_ok.mp h with ⟨hlength, h⟩
    rcases bind_eq_ok.mp h with ⟨root, hroot, h⟩
    rcases bind_unit_eq_ok.mp h with ⟨hrelation, h⟩
    split at h
    case h_2 => cases h
    rename_i maxIdentifierUtf8Bytes hmaxes
    rcases bind_unit_eq_ok.mp h with ⟨hidentifiers, h⟩
    rcases bind_unit_eq_ok.mp h with ⟨hcolumns, h⟩
    split at h
    · rename_i hreachable
      cases h
      refine ⟨rootRelationOid, root, maxIdentifierUtf8Bytes, hroots, ?_, ?_, ?_, hmaxes, ?_,
        hcolumns, hreachable, rfl⟩
      · simpa [refuseIf_eq_ok] using hlength
      · cases hfind : found.membersByOid.find? fun entry => decide (entry.1 = rootRelationOid) with
        | none => simp [hfind] at hroot
        | some entry => simpa [hfind] using hroot
      · simpa [refuseIf_eq_ok] using hrelation
      · exact forM_eq_ok.mp hidentifiers
    · cases h
    · cases h
  · rintro ⟨rootRelationOid, root, maxIdentifierUtf8Bytes, hroots, hlength, hroot, hrelation, hmaxes,
      hidentifiers, hcolumns, hreachable, rfl⟩
    rw [hroots]
    simp only [hroot, hmaxes, hreachable, Option.elim_some]
    rw [bind_unit_eq_ok, refuseIf_eq_ok]
    refine ⟨by simpa using hlength, ?_⟩
    rw [bind_eq_ok]
    refine ⟨root, rfl, ?_⟩
    rw [bind_unit_eq_ok, refuseIf_eq_ok]
    refine ⟨by simpa using hrelation, ?_⟩
    rw [bind_unit_eq_ok, bind_unit_eq_ok]
    exact ⟨forM_eq_ok.mpr hidentifiers, hcolumns, rfl⟩

theorem Discovery.Rearranged.frozenCandidate {acquisition : Acquisition}
    {candidate : RelationCandidate} (h : found.Rearranged other) (hkeyed : found.Keyed)
    (hfrozen : Postgres.frozenCandidate acquisition found = .ok candidate) :
    Postgres.frozenCandidate acquisition other = .ok candidate := by
  rcases frozenCandidate_eq_ok.mp hfrozen with ⟨rootRelationOid, root, maxIdentifierUtf8Bytes,
    hroots, hlength, hroot, hrelation, hmaxes, hidentifiers, hcolumns, hreachable, hcandidate⟩
  rcases h.sorted hkeyed with ⟨hmembers, hedges⟩
  have hoids := List.toFinset_eq_of_perm _ _ (h.members.map Prod.fst)
  rw [hedges, hoids] at hreachable
  rw [hmembers, hedges] at hcandidate
  rw [find?_perm hkeyed.membersOnce h.members] at hroot
  rw [h.rootOids] at hroots
  rw [h.maxIdentifierLengths] at hmaxes
  rw [h.members.length_eq] at hlength
  have hidentified : ∀ entry ∈ other.membersByOid,
      validateRelationIdentifiers entry.2.relation maxIdentifierUtf8Bytes = .ok () :=
    fun entry hentry => hidentifiers entry (h.members.mem_iff.mpr hentry)
  exact frozenCandidate_eq_ok.mpr ⟨rootRelationOid, root, maxIdentifierUtf8Bytes, hroots, hlength,
    hroot, hrelation, hmaxes, hidentified, hcolumns, hreachable, hcandidate⟩

end Rearranged

/-- A candidate of the rows is the candidate of any arrangement of them. -/
theorem frozenCandidateFromRows_perm {acquisition : Acquisition} {rows other : List DatabaseRow}
    {candidate : RelationCandidate} (hperm : rows.Perm other)
    (h : frozenCandidateFromRows acquisition rows = .ok candidate) :
    frozenCandidateFromRows acquisition other = .ok candidate := by
  rcases bind_eq_ok.mp h with ⟨found, hfound, hfrozen⟩
  rcases readCatalogRows_perm hperm hfound with ⟨hkeyed, next, hnext, hrearranged⟩
  exact bind_eq_ok.mpr ⟨next, hnext, hrearranged.frozenCandidate hkeyed hfrozen⟩

/-- The graph check ends and accepts exactly the acyclic, reachable graphs without
a repeated sequence, and the frozen candidate does not depend on the order of the
catalog rows. -/
theorem composition_reachability :
    (∀ (root : Int) (memberOids : Finset Int) (edges : List InheritanceEdge) (rounds : ℕ),
      root ∈ memberOids →
      (∀ edge ∈ edges, edge.parentRelationOid ∈ memberOids ∧
        edge.childRelationOid ∈ memberOids) →
      searchRounds root edges ≤ rounds →
      ∃ result, validateCompositionReachability rounds root memberOids edges = some result ∧
        (result = .ok () ↔ (edges.map InheritanceEdge.sequenceIdentity).Nodup ∧
          (∀ oid, ¬ Relation.TransGen (Edge (childrenOf edges)) oid oid) ∧
          ∀ oid ∈ memberOids, Relation.ReflTransGen (Edge (childrenOf edges)) root oid)) ∧
    ∀ (acquisition : Acquisition) (rows other : List DatabaseRow) (candidate : RelationCandidate),
      rows.Perm other →
      (frozenCandidateFromRows acquisition rows = .ok candidate ↔
        frozenCandidateFromRows acquisition other = .ok candidate) := by
  constructor
  · intro root memberOids edges rounds hroot hedges hrounds
    exact validateCompositionReachability_spec hrounds hroot hedges
  · intro acquisition rows other candidate hperm
    exact ⟨frozenCandidateFromRows_perm hperm, frozenCandidateFromRows_perm hperm.symm⟩

/-- Two relations that inherit from one, and a relation that inherits from both. -/
def diamond : List InheritanceEdge := [⟨1, 2, 1⟩, ⟨1, 3, 1⟩, ⟨2, 4, 1⟩, ⟨3, 4, 2⟩]

def hierarchyRow (oid : Int) (name : String) (isRoot : Bool) (parent : List DatabaseValue) :
    DatabaseRow :=
  [.integer oid, .integer (oid + 100), .integer 5, .text "s", .text name, .text "r", .text "p",
    .boolean true, .boolean false, .boolean false, .boolean true, .boolean isRoot]
    ++ parent ++ [.integer 63]

def eventsRow : DatabaseRow := hierarchyRow 1 "events" true [.null, .null, .null]

def partitionRow : DatabaseRow :=
  hierarchyRow 2 "events_1" false [.integer 1, .integer 1, .boolean false]

def eventsCandidate : RelationCandidate where
  rootRelationOid := 1
  members := [⟨⟨"s", "events"⟩, 1, 101, 5, .regular, "p"⟩,
    ⟨⟨"s", "events_1"⟩, 2, 102, 5, .regular, "p"⟩]
  edges := [⟨1, 2, 1⟩]

theorem composition_reachability_diamond :
    (∀ oid, ¬ Relation.TransGen (Edge (childrenOf diamond)) oid oid) ∧
      frozenCandidateFromRows ⟨⟨"s", "events"⟩, ["id"]⟩ [partitionRow, eventsRow]
        = .ok eventsCandidate := by
  constructor
  · rcases composition_reachability.1 1 {1, 2, 3, 4} diamond 14 (by decide) (by decide)
      (by decide +kernel) with ⟨result, hresult, hiff⟩
    have hchecked : validateCompositionReachability 14 1 {1, 2, 3, 4} diamond = some (.ok ()) := by
      decide +kernel
    have haccepted : result = .ok () := Option.some.inj (hresult.symm.trans hchecked)
    exact (hiff.mp haccepted).2.1
  · apply (composition_reachability.2 _ [eventsRow, partitionRow] _ _ (List.Perm.swap _ _ _)).mp
    decide +kernel

end ForensicData.Postgres
