/-
ForensicData.Canonical.Fingerprints — fingerprints of hashes and their sums.

`fingerprint_hashes` adds the limbs of digests one by one, `combine_fingerprints`
adds fingerprints. Both check the limb sums at every partial sum, but a limb sum
is at most `count * uint32` (`Balanced`), so only the check of the count can
fire. Each loop therefore computes `ofWeight` of a sum in the monoid of counts
and limb sums, and grouping, nesting and order drop out
(`Grouping.combine_eq`).
-/
import Mathlib.Algebra.BigOperators.Group.List.Lemmas
import ForensicData.Canonical.Hashing

namespace ForensicData.Canonical

/-! ## The loop over hashes -/

/-- The bytes of a SHA-256 digest. -/
abbrev Digest := { digest : Bytes // digest.length = 32 }

/-- `_require_sha256`. -/
def requireSha256 (digest : Bytes) : Except Refusal Unit :=
  refuseIf (digest.length ≠ 32)
    { error := .frameValidationError, message := "SHA-256 digest must be exactly 32 bytes" }

/-- `sha256_limbs` of 32 bytes. -/
def limbsOf (digest : Bytes) : Sha256Limbs :=
  fun i => fromBytesBig ((digest.drop (4 * i.val)).take 4)

/-- `sha256_limbs`. -/
def sha256Limbs (digest : Bytes) : Except Refusal Sha256Limbs := do
  requireSha256 digest
  return limbsOf digest

def countOverflow : Refusal := overflow "fingerprint count exceeds signed int64 maximum"

/-- One round of the loop of `fingerprint_hashes`. -/
def fingerprintStep (total : ℕ × Sha256Limbs) (digest : Bytes) :
    Except Refusal (ℕ × Sha256Limbs) := do
  refuseIf (total.1 = int64Max) countOverflow
  let limbs ← sha256Limbs digest
  let sums := total.2 + limbs
  refuseIf (∃ i, sums i > decimal38Max) (sumRefusal sums)
  return (total.1 + 1, sums)

/-- `fingerprint_hashes`. -/
def fingerprintHashes (digests : List Bytes) : Except Refusal Fingerprint := do
  let total ← digests.foldlM fingerprintStep (0, 0)
  Fingerprint.make total.1 total.2

/-! ## Balanced weights -/

/-- No limb sum exceeds what `count` words can add up to. -/
def Balanced (weight : ℕ × Sha256Limbs) : Prop := ∀ i, weight.2 i ≤ weight.1 * uint32Max

theorem Balanced.add {v w : ℕ × Sha256Limbs} (hv : Balanced v) (hw : Balanced w) :
    Balanced (v + w) := by
  intro i
  have hvi := hv i
  have hwi := hw i
  show v.2 i + w.2 i ≤ (v.1 + w.1) * uint32Max
  rw [Nat.add_mul]
  omega

theorem balanced_zero : Balanced 0 := by
  intro i
  simp

theorem balanced_sum {weights : List (ℕ × Sha256Limbs)} (h : ∀ w ∈ weights, Balanced w) :
    Balanced weights.sum := by
  induction weights with
  | nil => exact balanced_zero
  | cons w weights ih =>
    rw [List.sum_cons]
    exact (h w (by simp)).add (ih fun v hv => h v (by simp [hv]))

/-- Within the bound of the count, balanced limb sums are far from theirs. -/
theorem Balanced.limb_le {weight : ℕ × Sha256Limbs} (h : Balanced weight)
    (hcount : weight.1 ≤ int64Max) (i : Fin 8) : weight.2 i ≤ decimal38Max := by
  have hi := h i
  have hproduct : weight.1 * uint32Max ≤ int64Max * uint32Max := Nat.mul_le_mul_right _ hcount
  have hbound : int64Max * uint32Max ≤ decimal38Max := by decide
  omega

theorem Fingerprint.balanced (f : Fingerprint) : Balanced f.weight := f.limb_le_count

/-- The fingerprint of a weight, or the refusal of its count. -/
def ofWeight (weight : ℕ × Sha256Limbs) : Except Refusal Fingerprint :=
  if weight.1 ≤ int64Max then Fingerprint.make weight.1 weight.2 else .error countOverflow

theorem ofWeight_of_le {weight : ℕ × Sha256Limbs} (h : Balanced weight)
    (hcount : weight.1 ≤ int64Max) : ∃ f, ofWeight weight = .ok f ∧ f.weight = weight := by
  refine ⟨⟨weight.1, weight.2, hcount, h.limb_le hcount, h⟩, ?_, rfl⟩
  rw [ofWeight, if_pos hcount, Fingerprint.make_eq_ok, Fingerprint.weight]

theorem ofWeight_of_lt {weight : ℕ × Sha256Limbs} (hcount : int64Max < weight.1) :
    ofWeight weight = .error countOverflow := by
  rw [ofWeight, if_neg (by omega)]

theorem ofWeight_weight (f : Fingerprint) : ofWeight f.weight = .ok f := by
  rw [ofWeight, if_pos (show f.weight.1 ≤ int64Max from f.count_le), Fingerprint.make_eq_ok]

/-! ## What the loops compute -/

/-- An accumulating loop whose rounds refuse the count only. -/
theorem foldlM_weights {α : Type} {step : ℕ × Sha256Limbs → α → Except Refusal (ℕ × Sha256Limbs)}
    {weight : α → ℕ × Sha256Limbs} (items : List α) (total : ℕ × Sha256Limbs)
    (hweight : ∀ a ∈ items, Balanced (weight a))
    (hstep : ∀ total, ∀ a ∈ items, Balanced total → total.1 ≤ int64Max →
      step total a = if (total + weight a).1 ≤ int64Max then .ok (total + weight a)
        else .error countOverflow)
    (htotal : Balanced total) (hcount : total.1 ≤ int64Max) :
    items.foldlM step total
      = if (total + (items.map weight).sum).1 ≤ int64Max then .ok (total + (items.map weight).sum)
        else .error countOverflow := by
  induction items generalizing total with
  | nil => simp [hcount, pure, Except.pure]
  | cons a items ih =>
    rw [List.foldlM_cons, hstep total a (by simp) htotal hcount, List.map_cons, List.sum_cons,
      ← add_assoc]
    by_cases hnext : (total + weight a).1 ≤ int64Max
    · rw [if_pos hnext]
      exact ih _ (fun b hb => hweight b (by simp [hb])) (fun t b hb => hstep t b (by simp [hb]))
        (htotal.add (hweight a (by simp))) hnext
    · have hsum : ¬ (total + weight a + (items.map weight).sum).1 ≤ int64Max := by
        rw [Prod.fst_add]
        omega
      rw [if_neg hnext, if_neg hsum]
      rfl

/-- A loop from zero, followed by the constructor. -/
theorem foldlM_weights_make {α : Type}
    {step : ℕ × Sha256Limbs → α → Except Refusal (ℕ × Sha256Limbs)}
    {weight : α → ℕ × Sha256Limbs} (items : List α)
    (hweight : ∀ a ∈ items, Balanced (weight a))
    (hstep : ∀ total, ∀ a ∈ items, Balanced total → total.1 ≤ int64Max →
      step total a = if (total + weight a).1 ≤ int64Max then .ok (total + weight a)
        else .error countOverflow) :
    (items.foldlM step (0, 0) >>= fun total => Fingerprint.make total.1 total.2)
      = ofWeight (items.map weight).sum := by
  have hfold := foldlM_weights items 0 hweight hstep balanced_zero (Nat.zero_le _)
  rw [zero_add] at hfold
  rw [show ((0, 0) : ℕ × Sha256Limbs) = 0 from rfl, hfold, ofWeight]
  split <;> rfl

theorem combineStep_eq {total : ℕ × Sha256Limbs} (f : Fingerprint) (htotal : Balanced total) :
    combineStep total f
      = if (total + f.weight).1 ≤ int64Max then .ok (total + f.weight)
        else .error countOverflow := by
  show (do
    refuseIf ((total + f.weight).1 > int64Max) countOverflow
    refuseIf (∃ i, (total + f.weight).2 i > decimal38Max) (sumRefusal (total + f.weight).2)
    return total + f.weight) = _
  by_cases hcount : (total + f.weight).1 ≤ int64Max
  · have hlimbs : ¬ ∃ i, (total + f.weight).2 i > decimal38Max := by
      rintro ⟨i, hi⟩
      exact absurd ((htotal.add f.balanced).limb_le hcount i) (by omega)
    rw [refuseIf, if_neg (by omega), refuseIf, if_neg hlimbs, if_pos hcount]
    rfl
  · rw [refuseIf, if_pos (by omega), if_neg hcount]
    rfl

/-- `combine_fingerprints` adds the weights and refuses only their count. -/
theorem combineFingerprints_eq (fs : List Fingerprint) :
    combineFingerprints fs = ofWeight (fs.map Fingerprint.weight).sum :=
  foldlM_weights_make fs (fun f _ => f.balanced) fun _ f _ htotal _ => combineStep_eq f htotal

/-- The weight of one hash. -/
def hashWeight (digest : Bytes) : ℕ × Sha256Limbs := (1, limbsOf digest)

theorem fromBytesBig_lt {value : Bytes} : fromBytesBig value < 256 ^ value.length := by
  have hfold : ∀ (value : Bytes) (total bound : ℕ), total < bound →
      value.foldl (fun total byte => total * 256 + byte.toNat) total
        < bound * 256 ^ value.length := by
    intro value
    induction value with
    | nil => simp
    | cons byte value ih =>
      intro total bound h
      have hbyte : byte.toNat < 256 := byte.toNat_lt
      have := ih (total * 256 + byte.toNat) (bound * 256) (by omega)
      rw [List.foldl_cons, List.length_cons, Nat.pow_succ']
      rwa [Nat.mul_assoc] at this
  have := hfold value 0 1 Nat.one_pos
  rwa [Nat.one_mul] at this

theorem balanced_hashWeight (digest : Bytes) : Balanced (hashWeight digest) := by
  intro i
  have hlt : limbsOf digest i < 256 ^ ((digest.drop (4 * i.val)).take 4).length := fromBytesBig_lt
  have hle : 256 ^ ((digest.drop (4 * i.val)).take 4).length ≤ 256 ^ 4 :=
    Nat.pow_le_pow_right (by omega) (List.length_take_le _ _)
  show limbsOf digest i ≤ 1 * uint32Max
  unfold uint32Max
  omega

theorem fingerprintStep_eq {total : ℕ × Sha256Limbs} {digest : Bytes} (hlength : digest.length = 32)
    (htotal : Balanced total) (hcount : total.1 ≤ int64Max) :
    fingerprintStep total digest
      = if (total + hashWeight digest).1 ≤ int64Max then .ok (total + hashWeight digest)
        else .error countOverflow := by
  have hlimbs : sha256Limbs digest = .ok (limbsOf digest) := by
    rw [sha256Limbs, requireSha256, refuseIf, if_neg (by omega)]
    rfl
  show (do
    refuseIf (total.1 = int64Max) countOverflow
    let limbs ← sha256Limbs digest
    refuseIf (∃ i, (total.2 + limbs) i > decimal38Max) (sumRefusal (total.2 + limbs))
    return (total.1 + 1, total.2 + limbs)) = _
  rw [hlimbs]
  by_cases hnext : (total + hashWeight digest).1 ≤ int64Max
  · have hfree : total.1 ≠ int64Max := by
      have : total.1 + 1 ≤ int64Max := hnext
      omega
    have hsums : ¬ ∃ i, (total.2 + limbsOf digest) i > decimal38Max := by
      rintro ⟨i, hi⟩
      exact absurd ((htotal.add (balanced_hashWeight digest)).limb_le hnext i) (by
        show ¬ (total.2 + limbsOf digest) i ≤ decimal38Max
        omega)
    rw [if_pos hnext, refuseIf, if_neg hfree]
    show (do
      refuseIf (∃ i, (total.2 + limbsOf digest) i > decimal38Max) _
      return (total.1 + 1, total.2 + limbsOf digest)) = _
    rw [refuseIf, if_neg hsums]
    rfl
  · have hfull : total.1 = int64Max := by
      have : ¬ total.1 + 1 ≤ int64Max := hnext
      omega
    rw [if_neg hnext, refuseIf, if_pos hfull]
    rfl

/-- `fingerprint_hashes` adds the weights of the hashes and refuses only their
count. -/
theorem fingerprintHashes_eq {digests : List Bytes} (h : ∀ d ∈ digests, d.length = 32) :
    fingerprintHashes digests = ofWeight (digests.map hashWeight).sum :=
  foldlM_weights_make digests (fun d _ => balanced_hashWeight d) fun _ d hd htotal hcount =>
    fingerprintStep_eq (h d hd) htotal hcount

/-! ## Groupings -/

/-- The ways to split a collection into parts, parts of parts, and so on. -/
inductive Grouping (α : Type) where
  | part (content : α)
  | group (parts : List (Grouping α))

namespace Grouping

variable {α : Type}

mutual

/-- The contents of the parts, from left to right. -/
def contents : Grouping α → List α
  | .part content => [content]
  | .group parts => contentsOf parts

def contentsOf : List (Grouping α) → List α
  | [] => []
  | first :: rest => first.contents ++ contentsOf rest

end

mutual

/-- The fingerprints of the parts, combined group by group. -/
def combine (fingerprint : α → Except Refusal Fingerprint) :
    Grouping α → Except Refusal Fingerprint
  | .part content => fingerprint content
  | .group parts => do
    let fingerprints ← combineEach fingerprint parts
    combineFingerprints fingerprints

def combineEach (fingerprint : α → Except Refusal Fingerprint) :
    List (Grouping α) → Except Refusal (List Fingerprint)
  | [] => return []
  | first :: rest => do
    let combined ← first.combine fingerprint
    let others ← combineEach fingerprint rest
    return combined :: others

end

section Combine

variable (fingerprint : α → Except Refusal Fingerprint) (weight : α → ℕ × Sha256Limbs)
  (hleaf : ∀ content, fingerprint content = ofWeight (weight content) ∧
    Balanced (weight content))

/-- The weight of everything in a list of parts. -/
def total (contents : List α) : ℕ × Sha256Limbs := (contents.map weight).sum

include hleaf in
theorem balanced_total (contents : List α) : Balanced (total weight contents) := by
  apply balanced_sum
  intro w hw
  rcases List.mem_map.mp hw with ⟨content, -, rfl⟩
  exact (hleaf content).2

include hleaf

mutual

/-- However the parts are grouped, the result is that of their contents. -/
theorem combine_eq (g : Grouping α) :
    g.combine fingerprint = ofWeight (total weight g.contents) := by
  cases g with
  | part content => simp [combine, contents, total, (hleaf content).1]
  | group parts =>
    rw [combine, contents]
    rcases combineEach_cases parts with ⟨fs, heach, hsum⟩ | ⟨heach, hlarge⟩
    · rw [heach, ← hsum]
      exact combineFingerprints_eq fs
    · rw [heach, ofWeight_of_lt hlarge]
      rfl

/-- The parts either have fingerprints that weigh their contents together, or
are too many. -/
theorem combineEach_cases (parts : List (Grouping α)) :
    (∃ fs, combineEach fingerprint parts = .ok fs ∧
      (fs.map Fingerprint.weight).sum = total weight (contentsOf parts)) ∨
    combineEach fingerprint parts = .error countOverflow ∧
      int64Max < (total weight (contentsOf parts)).1 := by
  cases parts with
  | nil => exact .inl ⟨[], rfl, rfl⟩
  | cons first rest =>
    have hfirst := combine_eq first
    have htotal : total weight (contentsOf (first :: rest))
        = total weight first.contents + total weight (contentsOf rest) := by
      simp [contentsOf, total]
    by_cases hcount : (total weight first.contents).1 ≤ int64Max
    · rcases ofWeight_of_le (balanced_total fingerprint weight hleaf first.contents) hcount
        with ⟨f, hf, hweight⟩
      rw [hf] at hfirst
      rcases combineEach_cases rest with ⟨fs, hrest, hsum⟩ | ⟨hrest, hlarge⟩
      · refine .inl ⟨f :: fs, ?_, ?_⟩
        · simp [combineEach, hfirst, hrest, bind, Except.bind, pure, Except.pure]
        · rw [List.map_cons, List.sum_cons, hweight, hsum, htotal]
      · refine .inr ⟨by simp [combineEach, hfirst, hrest, bind, Except.bind], ?_⟩
        rw [htotal, Prod.fst_add]
        omega
    · rw [ofWeight_of_lt (by omega)] at hfirst
      refine .inr ⟨by simp [combineEach, hfirst, bind, Except.bind], ?_⟩
      rw [htotal, Prod.fst_add]
      omega

end

/-- Neither the order nor the grouping of the parts shows. -/
theorem combine_congr {g g' : Grouping α} (h : g.contents.Perm g'.contents) :
    g.combine fingerprint = g'.combine fingerprint := by
  rw [combine_eq fingerprint weight hleaf, combine_eq fingerprint weight hleaf,
    total, total, (h.map weight).sum_eq]

end Combine

end Grouping

/-! ## The homomorphism -/

/-- The bytes of digests. -/
def bytesOf (hashes : List Digest) : List Bytes := hashes.map Subtype.val

/-- The weight of a list of hashes: their number, and the sums of their limbs. -/
def hashesWeight (hashes : List Digest) : ℕ × Sha256Limbs :=
  ((bytesOf hashes).map hashWeight).sum

theorem balanced_hashesWeight (hashes : List Digest) : Balanced (hashesWeight hashes) := by
  apply balanced_sum
  intro w hw
  rcases List.mem_map.mp hw with ⟨digest, -, rfl⟩
  exact balanced_hashWeight digest

theorem fingerprintHashes_bytesOf (hashes : List Digest) :
    fingerprintHashes (bytesOf hashes) = ofWeight (hashesWeight hashes) := by
  apply fingerprintHashes_eq
  intro d hd
  rcases List.mem_map.mp hd with ⟨digest, -, rfl⟩
  exact digest.2

theorem hashesWeight_count (hashes : List Digest) : (hashesWeight hashes).1 = hashes.length := by
  induction hashes with
  | nil => rfl
  | cons digest hashes ih =>
    show 1 + (hashesWeight hashes).1 = hashes.length + 1
    rw [ih, Nat.add_comm]

theorem hashesWeight_flatten (parts : List (List Digest)) :
    hashesWeight parts.flatten = (parts.map hashesWeight).sum := by
  induction parts with
  | nil => rfl
  | cons part parts ih => simpa [hashesWeight, bytesOf] using ih

theorem hashesWeight_perm {hashes hashes' : List Digest} (h : hashes.Perm hashes') :
    hashesWeight hashes = hashesWeight hashes' :=
  ((h.map Subtype.val).map hashWeight).sum_eq

/-- A fingerprint does not depend on the order of the hashes; the fingerprints of
the parts of any grouping combine to the fingerprint of the whole, and any
fingerprints combine alike in every order and grouping, with the same refusal
where they are refused; and a list of at most `INT64_MAX` hashes has its
fingerprint, while a longer one is refused for its count alone. -/
theorem fingerprint_homomorphism :
    (∀ hashes hashes' : List Digest, hashes.Perm hashes' →
      fingerprintHashes (bytesOf hashes) = fingerprintHashes (bytesOf hashes')) ∧
    (∀ (parts : Grouping (List Digest)) (hashes : List Digest),
      parts.contents.flatten.Perm hashes →
      parts.combine (fun part => fingerprintHashes (bytesOf part))
        = fingerprintHashes (bytesOf hashes)) ∧
    (∀ fingerprints fingerprints' : Grouping Fingerprint,
      fingerprints.contents.Perm fingerprints'.contents →
      fingerprints.combine .ok = fingerprints'.combine .ok) ∧
    (∀ hashes : List Digest, hashes.length ≤ int64Max →
      ∃ f, fingerprintHashes (bytesOf hashes) = .ok f ∧ f.weight = hashesWeight hashes) ∧
    ∀ hashes : List Digest, int64Max < hashes.length →
      fingerprintHashes (bytesOf hashes) = .error countOverflow := by
  refine ⟨?permutation, ?partition, ?grouping, ?succeeds, ?refused⟩
  case permutation =>
    intro hashes hashes' h
    rw [fingerprintHashes_bytesOf, fingerprintHashes_bytesOf, hashesWeight_perm h]
  case partition =>
    intro parts hashes h
    rw [Grouping.combine_eq _ hashesWeight fun part =>
      ⟨fingerprintHashes_bytesOf part, balanced_hashesWeight part⟩,
      fingerprintHashes_bytesOf, Grouping.total, ← hashesWeight_flatten, hashesWeight_perm h]
  case grouping =>
    intro fingerprints fingerprints' h
    exact Grouping.combine_congr _ Fingerprint.weight
      (fun f => ⟨(ofWeight_weight f).symm, f.balanced⟩) h
  case succeeds =>
    intro hashes h
    rw [fingerprintHashes_bytesOf]
    exact ofWeight_of_le (balanced_hashesWeight hashes) (by rwa [hashesWeight_count])
  case refused =>
    intro hashes h
    rw [fingerprintHashes_bytesOf]
    exact ofWeight_of_lt (by rwa [hashesWeight_count])

/-- The digest whose bytes are all the same. -/
def constantDigest (byte : UInt8) : Digest := ⟨List.replicate 32 byte, List.length_replicate⟩

theorem fingerprint_homomorphism_two :
    fingerprintHashes (bytesOf [constantDigest 1, constantDigest 2])
      = fingerprintHashes (bytesOf [constantDigest 2, constantDigest 1]) :=
  fingerprint_homomorphism.1 _ _ (List.Perm.swap _ _ [])

end ForensicData.Canonical
