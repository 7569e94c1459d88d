/-
ForensicData.Comparison.Snapshots — what the tables of a comparison hold.

A snapshot is a finite map from 64-bit keys to canonical row envelopes. The
envelope of a row decodes to its key, so the rows of a range are known from
their envelopes alone, in any order (`Snapshot.rowsIn_eq_of_perm`).
`trueClass` says what a key is by the two maps. `truthOf` is the knowledge that
the connectors read two snapshots; under it the rows answered for a range
classify its keys as the maps do (`keysOfClass_of_answers`).
-/
import ForensicData.Canonical.Fingerprints
import ForensicData.Comparison.ExactLeaves

namespace ForensicData.Comparison

open ForensicData.Canonical
open ForensicData.Lib

/-! ## Snapshots -/

/-- A row of a table, by its key and its canonical envelope. -/
structure TableRow where
  key : Int
  envelope : Bytes
  deriving DecidableEq, Repr

section

variable (sha256 : Sha256) (schema : CanonicalSchema) (keyFieldIndex : ℕ)

/-- A canonical row envelope of the schema, of a row with that key. -/
def IsRowEnvelope (key : Int) (envelope : Bytes) : Prop :=
  ∃ values, decodeRow sha256 schema envelope = .ok values ∧
    values[keyFieldIndex]? = some (some (.integer key))

/-- The rows of a table whose keys are unique 64-bit integers, by key. -/
structure Snapshot where
  rows : List TableRow
  ascending : AscendingBy TableRow.key rows
  int64 : ∀ row ∈ rows, IsInt64 row.key
  canonical : ∀ row ∈ rows, IsRowEnvelope sha256 schema keyFieldIndex row.key row.envelope

end

variable {sha256 : Sha256} {schema : CanonicalSchema} {keyFieldIndex : ℕ}

/-- An envelope is that of one key only. -/
theorem IsRowEnvelope.key_unique {key other : Int} {envelope : Bytes}
    (h : IsRowEnvelope sha256 schema keyFieldIndex key envelope)
    (hother : IsRowEnvelope sha256 schema keyFieldIndex other envelope) : key = other := by
  obtain ⟨values, hvalues, hkey⟩ := h
  obtain ⟨others, hothers, hotherKey⟩ := hother
  have hsame : values = others := Except.ok.inj (hvalues.symm.trans hothers)
  rw [hsame, hotherKey] at hkey
  simpa using hkey.symm

namespace Snapshot

variable (snapshot other : Snapshot sha256 schema keyFieldIndex)

def keys : Finset Int := keysOf TableRow.key snapshot.rows

/-- The map from the keys to the envelopes. -/
def envelopeAt (key : Int) : Option Bytes :=
  (itemAt TableRow.key snapshot.rows key).map TableRow.envelope

/-- The rows whose keys lie in a range. -/
def rowsIn (covers : Int → Bool) : List TableRow := snapshot.rows.filter fun row => covers row.key

/-- The digests of the rows in a range. -/
def hashesIn (covers : Int → Bool) : List Digest :=
  (snapshot.rowsIn covers).map fun row =>
    ⟨sha256.digest row.envelope, sha256.length_digest row.envelope⟩

variable {snapshot other} {covers : Int → Bool} {key : Int}

theorem envelopeAt_eq_none : snapshot.envelopeAt key = none ↔ key ∉ snapshot.keys := by
  rw [envelopeAt, Option.map_eq_none_iff, itemAt_eq_none, keys]

theorem rowsIn_ascending : AscendingBy TableRow.key (snapshot.rowsIn covers) :=
  snapshot.ascending.filter _

theorem mem_rowsIn {row : TableRow} :
    row ∈ snapshot.rowsIn covers ↔ row ∈ snapshot.rows ∧ covers row.key = true := by
  rw [rowsIn, List.mem_filter]

theorem mem_keysOf_rowsIn :
    key ∈ keysOf TableRow.key (snapshot.rowsIn covers) ↔
      key ∈ snapshot.keys ∧ covers key = true := by
  rw [keys, mem_keysOf, mem_keysOf]
  constructor
  · rintro ⟨row, hrow, rfl⟩
    rw [mem_rowsIn] at hrow
    exact ⟨⟨row, hrow.1, rfl⟩, hrow.2⟩
  · rintro ⟨⟨row, hrow, rfl⟩, hcovers⟩
    exact ⟨row, mem_rowsIn.mpr ⟨hrow, hcovers⟩, rfl⟩

/-- The rows of a range are looked up as in the whole table. -/
theorem itemAt_rowsIn (key : Int) :
    (itemAt TableRow.key (snapshot.rowsIn covers) key).map TableRow.envelope
      = if covers key = true then snapshot.envelopeAt key else none := by
  rw [rowsIn, itemAt_filter]
  split <;> rfl

/-- A row whose envelope the other table has in the range is a row of it. -/
theorem mem_rowsIn_of_envelope {row : TableRow} (hrow : row ∈ snapshot.rowsIn covers)
    (h : row.envelope ∈ (other.rowsIn covers).map TableRow.envelope) :
    row ∈ other.rowsIn covers := by
  obtain ⟨found, hfound, henvelope⟩ := List.mem_map.mp h
  have hcanonical := other.canonical found (mem_rowsIn.mp hfound).1
  rw [henvelope] at hcanonical
  have hkey := hcanonical.key_unique (snapshot.canonical row (mem_rowsIn.mp hrow).1)
  have hsame : found = row := by
    cases found
    cases row
    simp only at henvelope hkey
    rw [henvelope, hkey]
  rwa [← hsame]

/-- Two tables with the same envelopes in a range have the same rows there. -/
theorem rowsIn_eq_of_perm
    (h : ((snapshot.rowsIn covers).map TableRow.envelope).Perm
      ((other.rowsIn covers).map TableRow.envelope)) :
    snapshot.rowsIn covers = other.rowsIn covers := by
  have hmem : ∀ row, row ∈ snapshot.rowsIn covers ↔ row ∈ other.rowsIn covers := by
    intro row
    constructor
    · intro hrow
      exact mem_rowsIn_of_envelope hrow (h.subset (List.mem_map_of_mem hrow))
    · intro hrow
      exact mem_rowsIn_of_envelope hrow (h.symm.subset (List.mem_map_of_mem hrow))
  have hperm : (snapshot.rowsIn covers).Perm (other.rowsIn covers) :=
    (List.perm_ext_iff_of_nodup (List.Nodup.of_map _ rowsIn_ascending.nodup_map)
      (List.Nodup.of_map _ rowsIn_ascending.nodup_map)).mpr hmem
  refine List.Perm.eq_of_pairwise (fun a b _ _ hab hba => ?_) rowsIn_ascending rowsIn_ascending
    hperm
  exact absurd hba (lt_asymm hab)

/-- Where two tables have the same rows in a range, they agree on its keys. -/
theorem envelopeAt_eq_of_rowsIn_eq (h : snapshot.rowsIn covers = other.rowsIn covers)
    (hkey : covers key = true) : snapshot.envelopeAt key = other.envelopeAt key := by
  have hfirst : (itemAt TableRow.key (snapshot.rowsIn covers) key).map TableRow.envelope
      = snapshot.envelopeAt key := (itemAt_rowsIn key).trans (if_pos hkey)
  have hsecond : (itemAt TableRow.key (other.rowsIn covers) key).map TableRow.envelope
      = other.envelopeAt key := (itemAt_rowsIn key).trans (if_pos hkey)
  rw [← hfirst, ← hsecond, h]

end Snapshot

/-! ## True classes -/

/-- What a key is, by the envelopes of both sides. -/
def classOfEnvelopes : Option Bytes → Option Bytes → Option KeyClass
  | none, none => none
  | some _, none => some .missing
  | none, some _ => some .extra
  | some reference, some target => some (if reference = target then .matched else .modified)

theorem classOf_eq (reference target : Option ExactRow) :
    classOf reference target
      = classOfEnvelopes (reference.map ExactRow.rowEnvelope)
        (target.map ExactRow.rowEnvelope) := by
  cases reference <;> cases target <;> rfl

variable (snapshot : Side → Snapshot sha256 schema keyFieldIndex)

/-- What a key is, by the two tables. -/
def trueClass (key : Int) : Option KeyClass :=
  classOfEnvelopes ((snapshot .reference).envelopeAt key) ((snapshot .target).envelopeAt key)

/-- The keys of either table that are of one class. -/
def keysOfTrueClass (keyClass : KeyClass) : Finset Int :=
  ((snapshot .reference).keys ∪ (snapshot .target).keys).filter fun key =>
    trueClass snapshot key = some keyClass

/-- The keys of one class that lie in a range. -/
def trueKeysIn (keyClass : KeyClass) (covers : Int → Bool) : Finset Int :=
  (keysOfTrueClass snapshot keyClass).filter fun key => covers key = true

variable {snapshot} {key : Int} {keyClass : KeyClass} {covers : Int → Bool}

/-- A key has a class exactly when one of the tables has it. -/
theorem trueClass_eq_none :
    trueClass snapshot key = none ↔
      key ∉ (snapshot .reference).keys ∧ key ∉ (snapshot .target).keys := by
  rw [trueClass, ← Snapshot.envelopeAt_eq_none, ← Snapshot.envelopeAt_eq_none]
  cases (snapshot .reference).envelopeAt key <;> cases (snapshot .target).envelopeAt key <;>
    simp [classOfEnvelopes]

theorem mem_keysOfTrueClass :
    key ∈ keysOfTrueClass snapshot keyClass ↔ trueClass snapshot key = some keyClass := by
  rw [keysOfTrueClass, Finset.mem_filter, Finset.mem_union]
  refine and_iff_right_of_imp fun h => ?_
  by_contra hneither
  rw [not_or, ← trueClass_eq_none, h] at hneither
  cases hneither

theorem mem_trueKeysIn :
    key ∈ trueKeysIn snapshot keyClass covers ↔
      trueClass snapshot key = some keyClass ∧ covers key = true := by
  rw [trueKeysIn, Finset.mem_filter, mem_keysOfTrueClass]

/-- The tables agree on a key exactly when it is in neither or matched. -/
theorem envelopeAt_eq_iff :
    (snapshot .reference).envelopeAt key = (snapshot .target).envelopeAt key ↔
      trueClass snapshot key = none ∨ trueClass snapshot key = some .matched := by
  rw [trueClass]
  cases (snapshot .reference).envelopeAt key with
  | none => cases (snapshot .target).envelopeAt key <;> simp [classOfEnvelopes]
  | some envelope =>
    cases (snapshot .target).envelopeAt key with
    | none => simp [classOfEnvelopes]
    | some found => by_cases h : envelope = found <;> simp [classOfEnvelopes, h]

/-- A key on which the tables agree is matched when one of them has it. -/
theorem trueClass_eq_matched
    (h : (snapshot .reference).envelopeAt key = (snapshot .target).envelopeAt key) :
    trueClass snapshot key = some .matched ↔ key ∈ (snapshot .reference).keys := by
  rw [← not_iff_not, ← Snapshot.envelopeAt_eq_none, trueClass, ← h]
  cases (snapshot .reference).envelopeAt key <;> simp [classOfEnvelopes]

/-- The tables are equal exactly when no key is missing, extra or modified. -/
theorem forall_envelopeAt_eq_iff :
    (∀ key, (snapshot .reference).envelopeAt key = (snapshot .target).envelopeAt key) ↔
      ∀ keyClass, keyClass ≠ .matched → (keysOfTrueClass snapshot keyClass).card = 0 := by
  constructor
  · intro hsame keyClass hclass
    rw [Finset.card_eq_zero, Finset.eq_empty_iff_forall_notMem]
    intro key hkey
    rw [mem_keysOfTrueClass] at hkey
    rcases envelopeAt_eq_iff.mp (hsame key) with hnone | hmatched
    · rw [hnone] at hkey
      cases hkey
    · rw [hmatched, Option.some.injEq] at hkey
      exact hclass hkey.symm
  · intro hempty key
    rw [envelopeAt_eq_iff]
    cases hclass : trueClass snapshot key with
    | none => exact .inl rfl
    | some keyClass =>
      right
      by_contra hne
      have hzero := hempty keyClass fun h => hne (by rw [h])
      rw [Finset.card_eq_zero] at hzero
      exact Finset.notMem_empty key (hzero ▸ mem_keysOfTrueClass.mpr hclass)

/-! ## Truthful answers -/

/-- The key summary of a table. -/
structure Snapshot.Summarised (snapshot : Snapshot sha256 schema keyFieldIndex)
    (summary : KeySummary) : Prop where
  row_count : summary.rowCount = snapshot.rows.length
  null_keys : summary.nullKeyCount = 0
  invalid_keys : summary.invalidKeyCount = 0
  distinct_keys : summary.distinctKeyCount = snapshot.rows.length
  minimum_key : summary.minimumKey = (snapshot.rows.map TableRow.key).min?
  maximum_key : summary.maximumKey = (snapshot.rows.map TableRow.key).max?

/-- The row of a table that an answered row stands for. -/
def ExactRow.tableRow (row : ExactRow) : TableRow where
  key := row.keyValue
  envelope := row.rowEnvelope

/-- The connectors read the two tables: they answer the key summary of each, the
count and the limb sums of the rows of a range, and those rows. -/
def truthOf (snapshot : Side → Snapshot sha256 schema keyFieldIndex) : Knowledge where
  summary := fun side summary => (snapshot side).Summarised summary
  fingerprint := fun side range fingerprint =>
    fingerprint.weight = hashesWeight ((snapshot side).hashesIn range.covers)
  rows := fun side range rows => rows.map ExactRow.tableRow = (snapshot side).rowsIn range.covers

section Rows

variable {side : Side} {rows referenceRows targetRows : List ExactRow}

theorem ascending_of_answer (h : rows.map ExactRow.tableRow = (snapshot side).rowsIn covers) :
    Ascending rows := by
  have hascending : AscendingBy TableRow.key ((snapshot side).rowsIn covers) :=
    Snapshot.rowsIn_ascending
  rw [← h, AscendingBy, List.pairwise_map] at hascending
  exact hascending

/-- The rows answered for a range lie in it. -/
theorem inside_of_answer (h : rows.map ExactRow.tableRow = (snapshot side).rowsIn covers) :
    Ascending rows ∧ ∀ row ∈ rows, covers row.keyValue = true := by
  refine ⟨ascending_of_answer h, fun row hrow => ?_⟩
  have hmem : row.tableRow ∈ (snapshot side).rowsIn covers := h ▸ List.mem_map_of_mem hrow
  exact (Snapshot.mem_rowsIn.mp hmem).2

/-- The row answered for a key carries the envelope the table has at it. -/
theorem envelope_of_answer (h : rows.map ExactRow.tableRow = (snapshot side).rowsIn covers)
    (key : Int) :
    (rowAt rows key).map ExactRow.rowEnvelope
      = if covers key = true then (snapshot side).envelopeAt key else none := by
  have hlookup : (itemAt TableRow.key ((snapshot side).rowsIn covers) key).map TableRow.envelope
      = if covers key = true then (snapshot side).envelopeAt key else none :=
    Snapshot.itemAt_rowsIn key
  rw [← h, itemAt_map, Option.map_map] at hlookup
  exact hlookup

/-- The rows answered for a range classify its keys as the tables do. -/
theorem classAt_of_answers
    (hreference : referenceRows.map ExactRow.tableRow = (snapshot .reference).rowsIn covers)
    (htarget : targetRows.map ExactRow.tableRow = (snapshot .target).rowsIn covers) (key : Int) :
    classAt referenceRows targetRows key
      = if covers key = true then trueClass snapshot key else none := by
  rw [classAt, classOf_eq, envelope_of_answer hreference, envelope_of_answer htarget]
  split <;> rfl

theorem keysOfClass_of_answers
    (hreference : referenceRows.map ExactRow.tableRow = (snapshot .reference).rowsIn covers)
    (htarget : targetRows.map ExactRow.tableRow = (snapshot .target).rowsIn covers)
    (keyClass : KeyClass) :
    keysOfClass referenceRows targetRows keyClass = trueKeysIn snapshot keyClass covers := by
  ext key
  have hclass := classAt_of_answers hreference htarget key
  rw [mem_trueKeysIn, keysOfClass, Finset.mem_filter, decide_eq_true_eq, hclass]
  split
  · rename_i hcovers
    refine ⟨fun h => ⟨h.2, hcovers⟩, fun h => ⟨?_, h.1⟩⟩
    rw [if_pos hcovers, h.1] at hclass
    by_contra hneither
    rw [allKeys, Finset.mem_union, not_or, ← itemAt_eq_none, ← itemAt_eq_none] at hneither
    rw [classAt, rowAt, rowAt, hneither.1, hneither.2] at hclass
    cases hclass
  · rename_i hcovers
    simp [hcovers]

end Rows

end ForensicData.Comparison
