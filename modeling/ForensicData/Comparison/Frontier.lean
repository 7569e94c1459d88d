/-
ForensicData.Comparison.Frontier — the shape of a drill-down.

`Frontier` is what holds of the recorded topology and the pending ranges
between any two changes the engine makes: together they are numbered without a
gap, those that are not split tile the root range, every one but the root hangs
below a recorded split, and every split has exactly its two halves. The engine
changes the two lists in two ways only, and each keeps it: a pending range is
recorded as resolved (`Frontier.record`), or recorded as split with its halves
in its place (`Frontier.split`).
-/
import Mathlib.Data.List.Perm.Basic
import ForensicData.Comparison.Engine

namespace ForensicData.Comparison

open ForensicData.Canonical
open ForensicData.Lib

/-! ## Places -/

/-- The number of 64-bit keys of the range. -/
def SegmentPlace.width (place : SegmentPlace) : Int :=
  place.upperExclusive.getD ((int64Max : Int) + 1) - place.lowerInclusive

/-- Each level halves the width, so no place lies below level 64. -/
def SegmentPlace.Narrow (place : SegmentPlace) : Prop :=
  place.depth ≤ 64 ∧ place.width ≤ 2 ^ (64 - place.depth)

/-- A place without a parent at level 0. -/
def SegmentPlace.IsRoot (place : SegmentPlace) : Prop :=
  place.segmentSequence = 0 ∧ place.parentSegmentSequence = none ∧ place.depth = 0

/-- What cutting a range in two gives. -/
structure IsSplit (parent left right : SegmentPlace) (nextSequence : ℕ) : Prop where
  left_sequence : left.segmentSequence = nextSequence
  right_sequence : right.segmentSequence = nextSequence + 1
  left_parent : left.parentSegmentSequence = some parent.segmentSequence
  right_parent : right.parentSegmentSequence = some parent.segmentSequence
  bisects : parent.Bisects left right
  wide : 2 ≤ parent.width
  left_width : left.width = parent.width / 2
  right_width : right.width = parent.width - parent.width / 2

/-- `_split_segment` cuts a range with more than one key. -/
theorem splitSegment_eq_some {parent left right : SegmentPlace} {nextSequence : ℕ}
    (h : splitSegment parent nextSequence = some (left, right)) :
    IsSplit parent left right nextSequence := by
  simp only [splitSegment] at h
  split at h
  · simp at h
  · rename_i hwidth
    simp only [Option.some.injEq, Prod.mk.injEq] at h
    obtain ⟨rfl, rfl⟩ := h
    have hwide : 2 ≤ parent.width := by
      unfold SegmentPlace.width
      omega
    refine { left_sequence := rfl, right_sequence := rfl, left_parent := rfl
             right_parent := rfl, bisects := ?_, wide := hwide, left_width := ?_
             right_width := ?_ }
    · refine { left_depth := rfl, right_depth := rfl, lower_eq := rfl, cut_eq := rfl
               upper_eq := rfl, lower_lt := ?_, lt_upper := ?_ }
      · simp only
        omega
      · intro upper hupper
        simp only at hupper
        simp only [hupper, Option.getD_some] at hwidth ⊢
        omega
    · simp only [SegmentPlace.width, Option.getD_some]
      omega
    · simp only [SegmentPlace.width]
      omega

/-- The halves of a well placed range are well placed below it. -/
theorem IsSplit.wellPlaced {parent left right : SegmentPlace} {nextSequence : ℕ}
    (h : IsSplit parent left right nextSequence) (hplaced : parent.WellPlaced)
    (hnext : parent.segmentSequence < nextSequence) : left.WellPlaced ∧ right.WellPlaced := by
  obtain ⟨hls, hrs, hlp, hrp, hbis, hwide, hlw, hrw⟩ := h
  obtain ⟨hld, hrd, hlower, hcut, hupper, hlt, hbound⟩ := hbis
  obtain ⟨_, _, hint, hupint⟩ := hplaced
  -- the midpoint lies below the upper end, which is at most the top of the domain
  have hmid : IsInt64 right.lowerInclusive := by
    have hpos : 0 < right.width := by omega
    unfold SegmentPlace.width at hpos
    refine ⟨by have := hint.1; omega, ?_⟩
    cases hcase : right.upperExclusive with
    | none =>
      simp only [hcase, Option.getD_none] at hpos
      omega
    | some upper =>
      have hu := (hupint upper (by rw [← hupper, hcase])).1.2
      have := hbound upper hcase
      omega
  refine ⟨⟨?_, ?_, ?_, ?_⟩, ⟨?_, ?_, hmid, ?_⟩⟩
  · intro parentSequence hparent
    rw [hlp, Option.some.injEq] at hparent
    omega
  · rw [hld, hlp]
    simp
  · rw [hlower]
    exact hint
  · intro upper hup
    rw [hcut, Option.some.injEq] at hup
    subst hup
    exact ⟨hmid, hlt⟩
  · intro parentSequence hparent
    rw [hrp, Option.some.injEq] at hparent
    omega
  · rw [hrd, hrp]
    simp
  · intro upper hup
    exact ⟨(hupint upper (by rw [← hupper, hup])).1, hbound upper hup⟩

theorem IsSplit.narrow {parent left right : SegmentPlace} {nextSequence : ℕ}
    (h : IsSplit parent left right nextSequence) (hnarrow : parent.Narrow) :
    left.Narrow ∧ right.Narrow := by
  obtain ⟨_, _, _, _, hbis, hwide, hlw, hrw⟩ := h
  obtain ⟨hdepth, hwidth⟩ := hnarrow
  have hlt : parent.depth < 64 := by
    by_contra hge
    have : 64 - parent.depth = 0 := by omega
    rw [this] at hwidth
    omega
  -- one level down the bound is half as large
  have hhalf : (2 : Int) ^ (64 - parent.depth) = 2 * 2 ^ (64 - (parent.depth + 1)) := by
    rw [← pow_succ']
    congr 1
    omega
  rw [hhalf] at hwidth
  refine ⟨⟨?_, ?_⟩, ⟨?_, ?_⟩⟩
  · rw [hbis.left_depth]
    omega
  · rw [hbis.left_depth, hlw]
    omega
  · rw [hbis.right_depth]
    omega
  · rw [hbis.right_depth, hrw]
    omega

/-! ## The root -/

/-- A summary has both bounds or none. -/
theorem KeySummary.bounds (summary : KeySummary) :
    (summary.minimumKey = none ∧ summary.maximumKey = none) ∨
      ∃ minimum maximum, summary.minimumKey = some minimum ∧ summary.maximumKey = some maximum ∧
        IsInt64 minimum ∧ IsInt64 maximum ∧ minimum ≤ maximum := by
  by_cases h : summary.validKeyCount = 0
  · exact .inl (summary.empty h)
  · exact .inr (summary.bounded h)

/-- The bounds of the root lie around the bounds of both summaries. -/
structure RootBounds (reference target : KeySummary) (root : SegmentPlace) : Prop where
  lower_int64 : IsInt64 root.lowerInclusive
  upper_int64 : ∀ upper, root.upperExclusive = some upper →
    IsInt64 upper ∧ root.lowerInclusive < upper
  lower_le : ∀ summary ∈ [reference, target], ∀ minimum, summary.minimumKey = some minimum →
    root.lowerInclusive ≤ minimum
  lt_upper : ∀ summary ∈ [reference, target], ∀ maximum, summary.maximumKey = some maximum →
    ∀ upper, root.upperExclusive = some upper → maximum < upper

/-- The upper bound of the root is open only at the top of the domain. -/
def upperAbove (maximum : Int) : Option Int :=
  if maximum = (int64Max : Int) then none else some (maximum + 1)

theorem upperAbove_bounds {minimum maximum : Int}
    (hmaximum : IsInt64 maximum) (hle : minimum ≤ maximum) :
    ∀ upper, upperAbove maximum = some upper → IsInt64 upper ∧ minimum < upper ∧ maximum < upper := by
  intro upper hupper
  unfold upperAbove at hupper
  split at hupper
  · simp at hupper
  · rename_i hne
    simp only [Option.some.injEq] at hupper
    unfold IsInt64 at hmaximum ⊢
    omega

/-- The least lower and the greatest upper bound of the summaries, if they have
any keys. -/
theorem rootSegment_cases (reference target : KeySummary) :
    ((rootSegment reference target).lowerInclusive = int64Min ∧
        (rootSegment reference target).upperExclusive = none ∧
        ∀ summary ∈ [reference, target], summary.minimumKey = none) ∨
      ∃ minimum maximum, IsInt64 minimum ∧ IsInt64 maximum ∧ minimum ≤ maximum ∧
        (rootSegment reference target).lowerInclusive = minimum ∧
        (rootSegment reference target).upperExclusive = upperAbove maximum ∧
        ∀ summary ∈ [reference, target],
          (∀ key, summary.minimumKey = some key → minimum ≤ key) ∧
            ∀ key, summary.maximumKey = some key → key ≤ maximum := by
  obtain ⟨hrmin, hrmax⟩ | ⟨rmin, rmax, hrmin, hrmax, hrlo, hrhi, hrle⟩ := reference.bounds <;>
    obtain ⟨htmin, htmax⟩ | ⟨tmin, tmax, htmin, htmax, htlo, hthi, htle⟩ := target.bounds
  · left
    simp [rootSegment, hrmin, htmin, hrmax, htmax]
  · right
    refine ⟨tmin, tmax, htlo, hthi, htle, ?_⟩
    simp [rootSegment, upperAbove, hrmin, htmin, hrmax, htmax]
  · right
    refine ⟨rmin, rmax, hrlo, hrhi, hrle, ?_⟩
    simp [rootSegment, upperAbove, hrmin, htmin, hrmax, htmax]
  · right
    refine ⟨min rmin tmin, max rmax tmax, ?_, ?_, by omega, ?_⟩
    · unfold IsInt64 at *
      omega
    · unfold IsInt64 at *
      omega
    · simp [rootSegment, upperAbove, hrmin, htmin, hrmax, htmax]

theorem rootSegment_bounds (reference target : KeySummary) :
    RootBounds reference target (rootSegment reference target) := by
  obtain ⟨hlower, hupper, hnone⟩ | ⟨minimum, maximum, hmin, hmax, hle, hlower, hupper, hsummaries⟩ :=
    rootSegment_cases reference target
  · exact
      { lower_int64 := by
          rw [hlower]
          exact ⟨le_refl _, by unfold int64Min int64Max; omega⟩
        upper_int64 := fun upper h => by simp [hupper] at h
        lower_le := fun summary hmem key hkey => by simp [hnone summary hmem] at hkey
        lt_upper := fun summary hmem key hkey upper h => by simp [hupper] at h }
  · have habove := upperAbove_bounds hmax hle
    rw [← hupper] at habove
    exact
      { lower_int64 := by rw [hlower]; exact hmin
        upper_int64 := fun upper h => by
          rw [hlower]
          exact ⟨(habove upper h).1, (habove upper h).2.1⟩
        lower_le := fun summary hmem key hkey => by
          rw [hlower]
          exact (hsummaries summary hmem).1 key hkey
        lt_upper := fun summary hmem key hkey upper h => by
          have := (hsummaries summary hmem).2 key hkey
          have := (habove upper h).2.2
          omega }

theorem rootSegment_isRoot (reference target : KeySummary) :
    (rootSegment reference target).IsRoot :=
  ⟨rfl, rfl, rfl⟩

theorem rootSegment_wellPlaced (reference target : KeySummary) :
    (rootSegment reference target).WellPlaced where
  parent_lt := by simp [rootSegment]
  root_iff := by simp [rootSegment]
  lower_int64 := (rootSegment_bounds reference target).lower_int64
  upper_int64 := (rootSegment_bounds reference target).upper_int64

/-- The whole domain has 2^64 keys. -/
theorem SegmentPlace.IsRoot.narrow {root : SegmentPlace} (hroot : root.IsRoot)
    (hplaced : root.WellPlaced) : root.Narrow := by
  obtain ⟨-, -, hdepth⟩ := hroot
  refine ⟨by omega, ?_⟩
  have hlower := hplaced.lower_int64.1
  have hupper : root.upperExclusive.getD ((int64Max : Int) + 1) ≤ (int64Max : Int) + 1 := by
    cases hcase : root.upperExclusive with
    | none => simp
    | some upper =>
      have := (hplaced.upper_int64 upper hcase).1.2
      simp only [Option.getD_some]
      omega
  simp only [hdepth, SegmentPlace.width, int64Min, int64Max] at hlower hupper ⊢
  omega

/-- Every key of a summary lies in the root. -/
theorem rootSegment_covers {reference target summary : KeySummary}
    (hsummary : summary ∈ [reference, target]) {minimum maximum key : Int}
    (hminimum : summary.minimumKey = some minimum) (hmaximum : summary.maximumKey = some maximum)
    (hlower : minimum ≤ key) (hupper : key ≤ maximum) :
    (rootSegment reference target).covers key = true := by
  have hbounds := rootSegment_bounds reference target
  refine inRange_eq_true.mpr ⟨?_, fun bound hbound => ?_⟩
  · exact (hbounds.lower_le summary hsummary minimum hminimum).trans hlower
  · have := hbounds.lt_upper summary hsummary maximum hmaximum bound hbound
    omega

/-! ## Frontiers -/

/-- The recorded and the pending places. -/
def places (topology : List ComparisonSegmentRecord) (pending : List PendingSegment) :
    List SegmentPlace :=
  topology.map (·.toSegmentPlace) ++ pending

/-- The recorded segments that are not split. -/
def terminalRecords (topology : List ComparisonSegmentRecord) : List ComparisonSegmentRecord :=
  topology.filter fun record => record.state.isTerminal

/-- The places that are not split. -/
def openPlaces (topology : List ComparisonSegmentRecord) (pending : List PendingSegment) :
    List SegmentPlace :=
  (terminalRecords topology).map (·.toSegmentPlace) ++ pending

/-- The places directly below a segment. -/
def childPlaces (all : List SegmentPlace) (sequence : ℕ) : List SegmentPlace :=
  all.filter fun place => decide (place.parentSegmentSequence = some sequence)

structure Frontier (root : SegmentPlace) (topology : List ComparisonSegmentRecord)
    (pending : List PendingSegment) : Prop where
  numbered : ((places topology pending).map (·.segmentSequence)).Perm
    (List.range (places topology pending).length)
  tiles : Tiles SegmentPlace.covers (openPlaces topology pending) root.covers
  rooted : ∀ place ∈ places topology pending, place = root ∨
    ∃ record ∈ topology, record.state = .split ∧
      place.parentSegmentSequence = some record.segmentSequence
  halves : ∀ record ∈ topology, record.state = .split →
    ∃ left right nextSequence,
      (childPlaces (places topology pending) record.segmentSequence).Perm [left, right] ∧
        IsSplit record.toSegmentPlace left right nextSequence
  placed : ∀ place ∈ places topology pending, place.WellPlaced
  narrow : ∀ place ∈ places topology pending, place.Narrow
  root_mem : root ∈ places topology pending

section

variable {root place : SegmentPlace} {topology : List ComparisonSegmentRecord}
  {pending : List PendingSegment} {segment : ComparisonSegmentRecord}

theorem Frontier.sequences_nodup (h : Frontier root topology pending) :
    ((places topology pending).map (·.segmentSequence)).Nodup :=
  h.numbered.nodup_iff.mpr List.nodup_range

theorem Frontier.topology_nodup (h : Frontier root topology pending) :
    (topology.map (·.segmentSequence)).Nodup := by
  have hall := h.sequences_nodup
  rw [places, List.map_append, List.map_map, List.nodup_append] at hall
  exact hall.1

theorem Frontier.sequence_lt (h : Frontier root topology pending)
    (hmem : place ∈ places topology pending) :
    place.segmentSequence < (places topology pending).length := by
  have := h.numbered.subset (List.mem_map_of_mem (f := (·.segmentSequence)) hmem)
  exact List.mem_range.mp this

/-- Before anything is read the root is pending. -/
theorem Frontier.start (hroot : root.IsRoot) (hplaced : root.WellPlaced) (hnarrow : root.Narrow) :
    Frontier root [] [root] where
  numbered := by simp [places, hroot.1]
  tiles := by simpa [openPlaces, terminalRecords] using tiles_singleton root
  rooted := by simp [places]
  halves := by simp
  placed := by simpa [places] using hplaced
  narrow := by simpa [places] using hnarrow
  root_mem := by simp [places]

theorem places_perm (topology : List ComparisonSegmentRecord) {pending' : List PendingSegment}
    (hperm : pending.Perm pending') : (places topology pending).Perm (places topology pending') :=
  hperm.append_left _

/-- The order of the pending places does not matter. -/
theorem Frontier.perm {pending' : List PendingSegment} (h : Frontier root topology pending)
    (hperm : pending.Perm pending') : Frontier root topology pending' := by
  have hall := places_perm topology hperm
  have hmem : ∀ place, place ∈ places topology pending' → place ∈ places topology pending :=
    fun place hplace => hall.symm.subset hplace
  exact
    { numbered := by
        rw [← hall.length_eq]
        exact (hall.map _).symm.trans h.numbered
      tiles := h.tiles.perm (hperm.append_left _)
      rooted := fun place hplace => h.rooted place (hmem place hplace)
      halves := fun record hrecord hstate => by
        obtain ⟨left, right, next, hperm', hsplit⟩ := h.halves record hrecord hstate
        exact ⟨left, right, next, (hall.symm.filter _).trans hperm', hsplit⟩
      placed := fun place hplace => h.placed place (hmem place hplace)
      narrow := fun place hplace => h.narrow place (hmem place hplace)
      root_mem := hall.subset h.root_mem }

/-- Nor does the order of the recorded segments. -/
theorem Frontier.reorder {topology' : List ComparisonSegmentRecord}
    (h : Frontier root topology pending) (hperm : topology.Perm topology') :
    Frontier root topology' pending := by
  have hall : (places topology pending).Perm (places topology' pending) :=
    (hperm.map _).append_right _
  have hmem : ∀ place, place ∈ places topology' pending → place ∈ places topology pending :=
    fun place hplace => hall.symm.subset hplace
  exact
    { numbered := by
        rw [← hall.length_eq]
        exact (hall.map _).symm.trans h.numbered
      tiles := h.tiles.perm (((hperm.filter _).map _).append_right _)
      rooted := fun place hplace => by
        obtain heq | ⟨parent, hparent, hfacts⟩ := h.rooted place (hmem place hplace)
        · exact .inl heq
        · exact .inr ⟨parent, hperm.subset hparent, hfacts⟩
      halves := fun record hrecord hstate => by
        obtain ⟨left, right, next, hperm', hsplit⟩ :=
          h.halves record (hperm.symm.subset hrecord) hstate
        exact ⟨left, right, next, (hall.symm.filter _).trans hperm', hsplit⟩
      placed := fun place hplace => h.placed place (hmem place hplace)
      narrow := fun place hplace => h.narrow place (hmem place hplace)
      root_mem := hall.subset h.root_mem }

/-- Recording moves the first pending place to the end of the topology. -/
theorem places_record (hplace : segment.toSegmentPlace = place) :
    (places topology (place :: pending)).Perm (places (topology ++ [segment]) pending) := by
  simp [places, hplace, List.append_assoc]

/-- A pending place is resolved. -/
theorem Frontier.record (h : Frontier root topology (place :: pending))
    (hplace : segment.toSegmentPlace = place) (hterminal : segment.state.isTerminal = true) :
    Frontier root (topology ++ [segment]) pending := by
  have hall := @places_record _ topology pending _ hplace
  have hmem : ∀ other, other ∈ places (topology ++ [segment]) pending →
      other ∈ places topology (place :: pending) := fun other hother => hall.symm.subset hother
  exact
    { numbered := by
        rw [← hall.length_eq]
        exact (hall.map _).symm.trans h.numbered
      tiles := by
        have hopen : openPlaces (topology ++ [segment]) pending
            = openPlaces topology (place :: pending) := by
          simp [openPlaces, terminalRecords, hterminal, hplace]
        rw [hopen]
        exact h.tiles
      rooted := fun other hother => by
        cases h.rooted other (hmem other hother) with
        | inl heq => exact .inl heq
        | inr hparent =>
          obtain ⟨parent, hparent, hstate, heq⟩ := hparent
          exact .inr ⟨parent, List.mem_append_left _ hparent, hstate, heq⟩
      halves := fun parent hparent hstate => by
        rw [List.mem_append, List.mem_singleton] at hparent
        cases hparent with
        | inl hparent =>
          obtain ⟨left, right, next, hperm, hsplit⟩ := h.halves parent hparent hstate
          exact ⟨left, right, next, (hall.symm.filter _).trans hperm, hsplit⟩
        | inr heq =>
          rw [heq] at hstate
          rw [hstate] at hterminal
          simp [ComparisonSegmentState.isTerminal] at hterminal
      placed := fun other hother => h.placed other (hmem other hother)
      narrow := fun other hother => h.narrow other (hmem other hother)
      root_mem := hall.subset h.root_mem }

/-- A pending place is split: its halves, numbered next, take its place. -/
theorem Frontier.split {left right : SegmentPlace} (h : Frontier root topology (place :: pending))
    (hplace : segment.toSegmentPlace = place) (hstate : segment.state = .split)
    (hsplit : IsSplit place left right (places topology (place :: pending)).length) :
    Frontier root (topology ++ [segment]) (left :: right :: pending) := by
  set count := (places topology (place :: pending)).length with hcount
  have hall := @places_record _ topology pending _ hplace
  have hmore : (places (topology ++ [segment]) (left :: right :: pending)).Perm
      (places topology (place :: pending) ++ [left, right]) := by
    refine List.Perm.trans ?_ (hall.symm.append_right _)
    simp only [places, List.append_assoc]
    refine List.Perm.append_left _ ?_
    exact (List.perm_append_comm : ([left, right] ++ pending).Perm _)
  have hin : place ∈ places topology (place :: pending) := by simp [places]
  have hlt : place.segmentSequence < count := h.sequence_lt hin
  obtain ⟨hleft, hright⟩ := hsplit.wellPlaced (h.placed place hin) hlt
  obtain ⟨hleftNarrow, hrightNarrow⟩ := hsplit.narrow (h.narrow place hin)
  have hcases : ∀ other, other ∈ places (topology ++ [segment]) (left :: right :: pending) →
      other ∈ places topology (place :: pending) ∨ other = left ∨ other = right := by
    intro other hother
    have := hmore.subset hother
    simpa using this
  have hsequence : segment.segmentSequence = place.segmentSequence := by rw [← hplace]
  -- nothing was below the place yet: it was pending, and only splits have children
  have hchildless : childPlaces (places topology (place :: pending)) place.segmentSequence = [] := by
    rw [childPlaces, List.filter_eq_nil_iff]
    intro other hother hparent
    rw [decide_eq_true_eq] at hparent
    cases h.rooted other hother with
    | inl heq =>
      -- the root has no parent
      have hrooted := h.rooted
      obtain hlt' := (h.placed other hother).parent_lt _ hparent
      obtain ⟨first, hfirst, hzero⟩ : ∃ first ∈ places topology (place :: pending),
          first.segmentSequence = 0 := by
        have : 0 ∈ List.range count := List.mem_range.mpr (by omega)
        obtain ⟨first, hfirst, hzero⟩ := List.mem_map.mp (h.numbered.symm.subset this)
        exact ⟨first, hfirst, hzero⟩
      cases hrooted first hfirst with
      | inl hfirstRoot =>
        rw [heq, ← hfirstRoot] at hlt'
        omega
      | inr hparent' =>
        obtain ⟨parent, _, _, hfirstParent⟩ := hparent'
        have := (h.placed first hfirst).parent_lt _ hfirstParent
        omega
    | inr hsplitParent =>
      obtain ⟨parent, hmem, _, hother'⟩ := hsplitParent
      rw [hother', Option.some.injEq] at hparent
      have hnodup := h.sequences_nodup
      rw [places, List.map_append, List.map_cons, List.nodup_append] at hnodup
      exact hnodup.2.2 _ (List.mem_map_of_mem (f := (·.segmentSequence))
        (List.mem_map_of_mem (f := (·.toSegmentPlace)) hmem)) place.segmentSequence
        List.mem_cons_self hparent
  have hnew : ∀ sequence, childPlaces [left, right] sequence =
      if sequence = place.segmentSequence then [left, right] else [] := by
    intro sequence
    simp only [childPlaces, List.filter_cons, hsplit.left_parent, hsplit.right_parent,
      Option.some.injEq, List.filter_nil, decide_eq_true_eq]
    split_ifs with h1 h2 h2 <;> first | rfl | (exfalso; omega)
  refine
    { numbered := ?_
      tiles := ?_
      rooted := ?_
      halves := ?_
      placed := ?_
      narrow := ?_
      root_mem := ?_ }
  · have hlength : (places (topology ++ [segment]) (left :: right :: pending)).length
        = count + 2 := by
      rw [hmore.length_eq, List.length_append, ← hcount]
      rfl
    rw [hlength]
    refine (hmore.map _).trans ?_
    rw [List.map_append, List.range_succ, List.range_succ, List.append_assoc]
    refine h.numbered.append ?_
    simp [hsplit.left_sequence, hsplit.right_sequence]
  · -- the halves tile the place they replace
    have hopen : (openPlaces topology (place :: pending)) =
        (terminalRecords topology).map (·.toSegmentPlace) ++ place :: pending := rfl
    have ht := h.tiles
    rw [hopen] at ht
    have := ht.refine hsplit.bisects.tiles
    refine this.perm (List.Perm.of_eq ?_)
    simp [openPlaces, terminalRecords, hstate, ComparisonSegmentState.isTerminal]
  · intro other hother
    cases hcases other hother with
    | inl hold =>
      cases h.rooted other hold with
      | inl heq => exact .inl heq
      | inr hparent =>
        obtain ⟨parent, hparent, hparentState, heq⟩ := hparent
        exact .inr ⟨parent, List.mem_append_left _ hparent, hparentState, heq⟩
    | inr hhalf =>
      refine .inr ⟨segment, by simp, hstate, ?_⟩
      rw [hsequence]
      cases hhalf with
      | inl heq => rw [heq, hsplit.left_parent]
      | inr heq => rw [heq, hsplit.right_parent]
  · intro parent hparent hparentState
    have hchildren : (childPlaces (places (topology ++ [segment]) (left :: right :: pending))
        parent.segmentSequence).Perm
          (childPlaces (places topology (place :: pending)) parent.segmentSequence ++
            childPlaces [left, right] parent.segmentSequence) := by
      rw [childPlaces, childPlaces, childPlaces, ← List.filter_append]
      exact hmore.filter _
    rw [List.mem_append, List.mem_singleton] at hparent
    cases hparent with
    | inl hparent =>
      -- an older split keeps its children: the halves are not below it
      have hne : parent.segmentSequence ≠ place.segmentSequence := by
        intro heq
        have hnodup := h.sequences_nodup
        rw [places, List.map_append, List.map_cons, List.nodup_append] at hnodup
        exact hnodup.2.2 _ (List.mem_map_of_mem (f := (·.segmentSequence))
          (List.mem_map_of_mem (f := (·.toSegmentPlace)) hparent)) place.segmentSequence
          List.mem_cons_self heq
      rw [hnew, if_neg hne, List.append_nil] at hchildren
      obtain ⟨l, r, next, hperm, hlr⟩ := h.halves parent hparent hparentState
      exact ⟨l, r, next, hchildren.trans hperm, hlr⟩
    | inr heq =>
      subst heq
      rw [hsequence, hnew, if_pos rfl, hchildless, List.nil_append] at hchildren
      rw [hsequence]
      refine ⟨left, right, count, hchildren, ?_⟩
      rw [hplace]
      exact hsplit
  · intro other hother
    obtain hold | rfl | rfl := hcases other hother
    · exact h.placed other hold
    · exact hleft
    · exact hright
  · intro other hother
    obtain hold | rfl | rfl := hcases other hother
    · exact h.narrow other hold
    · exact hleftNarrow
    · exact hrightNarrow
  · exact hmore.symm.subset (List.mem_append_left _ h.root_mem)

end

end ForensicData.Comparison
