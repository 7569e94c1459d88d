/-
ForensicData.Lib.IntegerText — integers as decimal text.

`isIntegerText` accepts exactly the texts `renderInt` writes: no leading zero,
no plus sign and no negative zero. Digit texts of one length are ordered as
their values, so a bound can be checked on the text.
-/
import ForensicData.Lib.Json

namespace ForensicData.Lib

open Json (renderInt)

/-- `(?:0|-?[1-9][0-9]*)`, matched in full. -/
def isIntegerText : List Char → Bool
  | ['0'] => true
  | '-' :: c :: cs => c != '0' && (c :: cs).all (isDigitOf 10)
  | c :: cs => c != '0' && (c :: cs).all (isDigitOf 10)
  | [] => false

/-- `int(text)`, of an integer text. -/
def readInt : List Char → Int
  | '-' :: cs => -(digitsValue 10 cs : Int)
  | cs => digitsValue 10 cs

/-- The digits of an integer text. -/
def absoluteDigits : List Char → List Char
  | '-' :: cs => cs
  | cs => cs

theorem toDigits_eq_cons (n : ℕ) : ∃ c cs, Nat.toDigits 10 n = c :: cs ∧ c ≠ '-' := by
  cases hdigits : Nat.toDigits 10 n with
  | nil => exact absurd hdigits Nat.toDigits_ne_nil
  | cons c cs =>
    refine ⟨c, cs, rfl, ?_⟩
    rintro rfl
    have hminus : isDigitOf 10 '-' = true :=
      isDigitOf_of_mem_toDigits (hdigits ▸ List.mem_cons_self)
    exact absurd hminus (by decide)

theorem readInt_of_ne {c : Char} (cs : List Char) (h : c ≠ '-') :
    readInt (c :: cs) = digitsValue 10 (c :: cs) := by
  unfold readInt
  split
  · rename_i heq
    rw [List.cons.injEq] at heq
    exact absurd heq.1 h
  · rfl

theorem absoluteDigits_of_ne {c : Char} (cs : List Char) (h : c ≠ '-') :
    absoluteDigits (c :: cs) = c :: cs := by
  unfold absoluteDigits
  split
  · rename_i heq
    rw [List.cons.injEq] at heq
    exact absurd heq.1 h
  · rfl

@[simp] theorem readInt_renderInt (n : Int) : readInt (renderInt n) = n := by
  unfold renderInt
  split
  · rename_i hnegative
    rw [readInt, digitsValue_toDigits]
    omega
  · rename_i hnegative
    obtain ⟨c, cs, hdigits, hminus⟩ := toDigits_eq_cons n.natAbs
    rw [hdigits, readInt_of_ne cs hminus, ← hdigits, digitsValue_toDigits]
    omega

@[simp] theorem absoluteDigits_renderInt (n : Int) :
    absoluteDigits (renderInt n) = Nat.toDigits 10 n.natAbs := by
  unfold renderInt
  split
  · rfl
  · obtain ⟨c, cs, hdigits, hminus⟩ := toDigits_eq_cons n.natAbs
    rw [hdigits, absoluteDigits_of_ne cs hminus]

theorem renderInt_injective : Function.Injective renderInt := by
  intro n m h
  rw [← readInt_renderInt n, h, readInt_renderInt]

theorem head_toDigits {n : ℕ} (hpos : 0 < n) {c : Char} {cs : List Char}
    (h : Nat.toDigits 10 n = c :: cs) : c ≠ '0' := by
  rintro rfl
  have hvalue := digitsValue_toDigits n
  rw [h, digitsValue_cons, digitValue_eq_zero.mpr rfl, Nat.zero_mul, Nat.zero_add] at hvalue
  have hall : ∀ d ∈ cs, isDigitOf 10 d = true := fun d hd =>
    isDigitOf_of_mem_toDigits (h ▸ List.mem_cons_of_mem _ hd)
  have hlt := digitsValue_lt hall
  rw [hvalue] at hlt
  cases cs with
  | nil =>
    rw [List.length_nil, pow_zero] at hlt
    omega
  | cons d ds =>
    have hlength := (Nat.length_toDigits_le_iff (show 1 < 10 by omega)
      (show 0 < (d :: ds).length by simp)).mpr hlt
    rw [h, List.length_cons] at hlength
    omega

theorem isIntegerText_of_digits {c : Char} {cs : List Char} (hzero : c ≠ '0')
    (hdigits : ∀ d ∈ c :: cs, isDigitOf 10 d = true) : isIntegerText (c :: cs) = true := by
  have hall : (c :: cs).all (isDigitOf 10) = true := List.all_eq_true.mpr hdigits
  unfold isIntegerText
  split
  · rfl
  · rename_i heq
    rw [List.cons.injEq] at heq
    have hminus := hdigits c List.mem_cons_self
    rw [heq.1] at hminus
    exact absurd hminus (by decide)
  · rename_i heq
    rw [List.cons.injEq] at heq
    obtain ⟨rfl, rfl⟩ := heq
    simp [hzero, hall]
  · rename_i heq
    simp at heq

theorem isIntegerText_renderInt (n : Int) : isIntegerText (renderInt n) = true := by
  by_cases hzero : n = 0
  · subst hzero
    decide
  have hpos : 0 < n.natAbs := by omega
  obtain ⟨c, cs, hdigits, -⟩ := toDigits_eq_cons n.natAbs
  have hhead := head_toDigits hpos hdigits
  have hall : ∀ d ∈ c :: cs, isDigitOf 10 d = true := fun d hd =>
    isDigitOf_of_mem_toDigits (hdigits ▸ hd)
  unfold renderInt
  rw [hdigits]
  split
  · have hdecimal : (c :: cs).all (isDigitOf 10) = true := List.all_eq_true.mpr hall
    simp [isIntegerText, hhead, hdecimal]
  · exact isIntegerText_of_digits hhead hall

/-- Reading an integer text and writing it again gives the text back. -/
theorem renderInt_readInt {cs : List Char} (h : isIntegerText cs = true) :
    renderInt (readInt cs) = cs := by
  have hdigits : ∀ {c : Char} {ds : List Char}, c ≠ '0' →
      (c :: ds).all (isDigitOf 10) = true →
        0 < digitsValue 10 (c :: ds) ∧ Nat.toDigits 10 (digitsValue 10 (c :: ds)) = c :: ds := by
    intro c ds hc hall
    refine ⟨digitsValue_pos_of_head hc, toDigits_digitsValue (by simp) (List.all_eq_true.mp hall) ?_⟩
    intro hzero
    exact absurd (Option.some.inj hzero) hc
  unfold isIntegerText at h
  split at h
  · decide
  · rename_i c ds
    simp only [Bool.and_eq_true, bne_iff_ne] at h
    obtain ⟨hpos, htext⟩ := hdigits h.1 h.2
    rw [readInt, renderInt, if_pos (by omega), Int.natAbs_neg, Int.natAbs_natCast, htext]
  · rename_i c ds _ hne
    simp only [Bool.and_eq_true, bne_iff_ne] at h
    have hminus : c ≠ '-' := by
      rintro rfl
      have hall := List.all_eq_true.mp h.2 '-' List.mem_cons_self
      exact absurd hall (by decide)
    obtain ⟨hpos, htext⟩ := hdigits h.1 h.2
    rw [readInt_of_ne ds hminus, renderInt, if_neg (by omega), Int.natAbs_natCast, htext]
  · simp at h

theorem isIntegerText_iff {cs : List Char} :
    isIntegerText cs = true ↔ ∃ n : Int, cs = renderInt n := by
  constructor
  · intro h
    exact ⟨readInt cs, (renderInt_readInt h).symm⟩
  · rintro ⟨n, rfl⟩
    exact isIntegerText_renderInt n

/-! ## Bounds on the text -/

theorem digitValue_eq {c : Char} (h : isDigitOf 10 c = true) :
    digitValue c + 48 = c.toNat := by
  rw [isDigitOf, decide_eq_true_eq] at h
  unfold digitValue at h ⊢
  split at h
  · rename_i hrange
    rw [if_pos hrange]
    omega
  · split at h <;> omega

/-- Digit texts of one length are ordered as their values. -/
theorem digits_lt_iff {xs ys : List Char} (hlength : xs.length = ys.length)
    (hxs : ∀ c ∈ xs, isDigitOf 10 c = true) (hys : ∀ c ∈ ys, isDigitOf 10 c = true) :
    xs < ys ↔ digitsValue 10 xs < digitsValue 10 ys := by
  induction xs generalizing ys with
  | nil =>
    cases ys with
    | nil => simp
    | cons y ys => simp at hlength
  | cons x xs ih =>
    cases ys with
    | nil => simp at hlength
    | cons y ys =>
      rw [List.forall_mem_cons] at hxs hys
      have hlength : xs.length = ys.length := by simpa using hlength
      have hx := digitValue_eq hxs.1
      have hy := digitValue_eq hys.1
      have hxvalue := digitsValue_lt hxs.2
      have hyvalue := digitsValue_lt hys.2
      have htail := ih hlength hxs.2 hys.2
      rw [List.cons_lt_cons_iff, htail, digitsValue_cons, digitsValue_cons, hlength]
      rw [hlength] at hxvalue
      have hchar : x < y ↔ digitValue x < digitValue y := by
        rw [Char.lt_def, UInt32.lt_iff_toNat_lt]
        change x.toNat < y.toNat ↔ _
        omega
      rw [hchar]
      rcases Nat.lt_trichotomy (digitValue x) (digitValue y) with hlt | heq | hgt
      · have hstep : (digitValue x + 1) * 10 ^ ys.length ≤ digitValue y * 10 ^ ys.length :=
          Nat.mul_le_mul_right _ hlt
        rw [Nat.add_mul, Nat.one_mul] at hstep
        exact ⟨fun _ => by omega, fun _ => .inl hlt⟩
      · have hxy : x = y := by
          rw [← Char.toNat_inj]
          omega
        rw [heq]
        exact ⟨fun h => by rcases h with h | h <;> omega, fun h => .inr ⟨hxy, by omega⟩⟩
      · have hstep : (digitValue y + 1) * 10 ^ ys.length ≤ digitValue x * 10 ^ ys.length :=
          Nat.mul_le_mul_right _ hgt
        rw [Nat.add_mul, Nat.one_mul] at hstep
        refine ⟨fun h => ?_, fun h => by omega⟩
        rcases h with h | h
        · omega
        · rw [h.1] at hgt
          omega

/-- The text has more digits than the bound, or as many and comes after it. -/
def exceedsDigits (digits limit : List Char) : Bool :=
  decide (limit.length < digits.length) ||
    (digits.length == limit.length && decide (limit < digits))

theorem exceedsDigits_toDigits (n limit : ℕ) :
    exceedsDigits (Nat.toDigits 10 n) (Nat.toDigits 10 limit) = true ↔ limit < n := by
  have hn : ∀ c ∈ Nat.toDigits 10 n, isDigitOf 10 c = true := fun c hc =>
    isDigitOf_of_mem_toDigits hc
  have hlimit : ∀ c ∈ Nat.toDigits 10 limit, isDigitOf 10 c = true := fun c hc =>
    isDigitOf_of_mem_toDigits hc
  have hlength : ∀ {m k : ℕ}, (Nat.toDigits 10 m).length < (Nat.toDigits 10 k).length → m < k := by
    intro m k h
    have hm := (Nat.length_toDigits_le_iff (show 1 < 10 by omega) Nat.length_toDigits_pos).mp
      (Nat.le_refl (Nat.toDigits 10 m).length)
    by_contra hle
    have hk : k < 10 ^ (Nat.toDigits 10 m).length := by omega
    have := (Nat.length_toDigits_le_iff (show 1 < 10 by omega)
      (@Nat.length_toDigits_pos 10 m)).mpr hk
    omega
  simp only [exceedsDigits, Bool.or_eq_true, decide_eq_true_eq, Bool.and_eq_true, beq_iff_eq]
  constructor
  · rintro (h | ⟨heq, hlt⟩)
    · exact hlength h
    · rw [digits_lt_iff heq.symm hlimit hn, digitsValue_toDigits, digitsValue_toDigits] at hlt
      exact hlt
  · intro h
    rcases Nat.lt_trichotomy (Nat.toDigits 10 limit).length (Nat.toDigits 10 n).length
      with hlt | heq | hgt
    · exact .inl hlt
    · refine .inr ⟨heq.symm, ?_⟩
      rw [digits_lt_iff heq hlimit hn, digitsValue_toDigits, digitsValue_toDigits]
      exact h
    · have := hlength hgt
      omega

/-! ## Powers of ten -/

/-- Multiplying by a power of ten appends zeros. -/
theorem toDigits_mul_pow {n : ℕ} (hpos : 0 < n) (k : ℕ) :
    Nat.toDigits 10 (n * 10 ^ k) = Nat.toDigits 10 n ++ List.replicate k '0' := by
  obtain ⟨c, cs, hdigits, -⟩ := toDigits_eq_cons n
  have hhead := head_toDigits hpos hdigits
  have hvalue : digitsValue 10 (Nat.toDigits 10 n ++ List.replicate k '0') = n * 10 ^ k := by
    rw [digitsValue_append, digitsValue_toDigits, List.length_replicate,
      (digitsValue_eq_zero (by omega)).mpr fun _ hc => List.eq_of_mem_replicate hc, Nat.add_zero]
  have hall : ∀ d ∈ Nat.toDigits 10 n ++ List.replicate k '0', isDigitOf 10 d = true := by
    intro d hd
    rcases List.mem_append.mp hd with hd | hd
    · exact isDigitOf_of_mem_toDigits hd
    · rw [List.eq_of_mem_replicate hd]
      decide
  rw [← hvalue]
  refine toDigits_digitsValue (by simp [hdigits]) hall fun hzero => ?_
  rw [hdigits, List.cons_append, List.head?_cons, Option.some.injEq] at hzero
  exact absurd hzero hhead

/-- The number ends in `k` zeros exactly when the power of ten divides it. -/
theorem ends_in_zeros_iff {n k : ℕ} (hpos : 0 < n) :
    k ≤ (Nat.toDigits 10 n).length ∧
        (∀ c ∈ (Nat.toDigits 10 n).drop ((Nat.toDigits 10 n).length - k), c = '0') ↔
      10 ^ k ∣ n := by
  constructor
  · rintro ⟨hlength, hzeros⟩
    have hvalue := digitsValue_toDigits n
    rw [← List.take_append_drop ((Nat.toDigits 10 n).length - k) (Nat.toDigits 10 n),
      digitsValue_append, (digitsValue_eq_zero (by omega)).mpr hzeros, List.length_drop,
      Nat.sub_sub_self hlength, Nat.add_zero] at hvalue
    exact ⟨_, by rw [Nat.mul_comm]; exact hvalue.symm⟩
  · rintro ⟨q, rfl⟩
    have hq : 0 < q := by
      rcases Nat.eq_zero_or_pos q with rfl | hq
      · simp at hpos
      · exact hq
    rw [Nat.mul_comm, toDigits_mul_pow hq, List.length_append, List.length_replicate,
      Nat.add_sub_cancel, List.drop_left]
    exact ⟨by omega, fun c hc => List.eq_of_mem_replicate hc⟩

/-- Dividing by a power of ten drops the zeros. -/
theorem take_toDigits_mul_pow {n k : ℕ} (hpos : 0 < n) :
    (Nat.toDigits 10 (n * 10 ^ k)).take ((Nat.toDigits 10 (n * 10 ^ k)).length - k) =
      Nat.toDigits 10 n := by
  rw [toDigits_mul_pow hpos, List.length_append, List.length_replicate, Nat.add_sub_cancel,
    List.take_left]

end ForensicData.Lib
