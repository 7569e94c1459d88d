/-
ForensicData.Lib.Digits — numbers as text, digit by digit.

`fixedDigits base width n` writes the `width` lowest digits of `n`, and
`digitsValue` reads any digits back; on texts of one width the two are inverse.
Without a width a number is written by `Nat.toDigits`, which is the only digit
text of its value without a leading zero (`toDigits_digitsValue`). `hexText`
writes bytes. Digits above nine are the letters from `a`, so the base is at
most sixteen.
-/
import Mathlib.Data.List.Induction
import Mathlib.Data.Nat.Notation
import Mathlib.Tactic.IntervalCases

namespace ForensicData.Lib

/-! ## One digit -/

/-- The value of a digit; sixteen for a character that is none. -/
def digitValue (c : Char) : ℕ :=
  if 48 ≤ c.toNat ∧ c.toNat ≤ 57 then c.toNat - 48
  else if 97 ≤ c.toNat ∧ c.toNat ≤ 102 then c.toNat - 87
  else 16

/-- The character is a digit of the base. -/
def isDigitOf (base : ℕ) (c : Char) : Bool := decide (digitValue c < base)

@[simp] theorem digitValue_digitChar {n : ℕ} (h : n < 16) : digitValue (Nat.digitChar n) = n := by
  interval_cases n <;> decide

theorem digitChar_digitValue {c : Char} (h : digitValue c < 16) :
    Nat.digitChar (digitValue c) = c := by
  have hchar : ∀ {n : ℕ}, n < 128 → c.toNat = n → c = Char.ofNat n := by
    intro n _ hn
    rw [← hn, Char.ofNat_toNat]
  unfold digitValue at h ⊢
  split at h
  · rename_i hrange
    rw [if_pos hrange]
    obtain ⟨hlow, hhigh⟩ := hrange
    generalize hn : c.toNat = n at hlow hhigh ⊢
    rw [hchar (by omega) hn]
    interval_cases n <;> decide
  · split at h
    · rename_i hdecimal hrange
      rw [if_neg hdecimal, if_pos hrange]
      obtain ⟨hlow, hhigh⟩ := hrange
      generalize hn : c.toNat = n at hlow hhigh ⊢
      rw [hchar (by omega) hn]
      interval_cases n <;> decide
    · omega

theorem isDigitOf_digitChar {base n : ℕ} (hbase : base ≤ 16) (h : n < base) :
    isDigitOf base (Nat.digitChar n) = true := by
  rw [isDigitOf, digitValue_digitChar (by omega), decide_eq_true h]

/-! ## Reading digits -/

/-- The number that the digits write, most significant first. -/
def digitsValue (base : ℕ) (digits : List Char) : ℕ :=
  digits.foldl (fun value c => value * base + digitValue c) 0

@[simp] theorem digitsValue_nil (base : ℕ) : digitsValue base [] = 0 := rfl

@[simp] theorem digitsValue_append_singleton (base : ℕ) (digits : List Char) (c : Char) :
    digitsValue base (digits ++ [c]) = digitsValue base digits * base + digitValue c := by
  simp [digitsValue]

theorem digitsValue_append (base : ℕ) (digits more : List Char) :
    digitsValue base (digits ++ more)
      = digitsValue base digits * base ^ more.length + digitsValue base more := by
  induction more using List.reverseRecOn with
  | nil => simp
  | append_singleton more c ih =>
    rw [← List.append_assoc, digitsValue_append_singleton, ih, digitsValue_append_singleton,
      List.length_append, List.length_singleton, pow_succ, Nat.add_mul, Nat.mul_assoc,
      Nat.add_assoc]

theorem digitsValue_cons (base : ℕ) (c : Char) (digits : List Char) :
    digitsValue base (c :: digits) = digitValue c * base ^ digits.length + digitsValue base digits := by
  rw [← List.singleton_append, digitsValue_append]
  simp [digitsValue]

theorem digitValue_eq_zero {c : Char} : digitValue c = 0 ↔ c = '0' := by
  constructor
  · intro h
    have hchar := @digitChar_digitValue c (by omega)
    rw [h] at hchar
    exact hchar.symm
  · rintro rfl
    rfl

/-- Only zeros write zero. -/
theorem digitsValue_eq_zero {base : ℕ} (hpos : 0 < base) {digits : List Char} :
    digitsValue base digits = 0 ↔ ∀ c ∈ digits, c = '0' := by
  induction digits with
  | nil => simp
  | cons c digits ih =>
    have hpow : 0 < base ^ digits.length := Nat.pow_pos hpos
    rw [digitsValue_cons, Nat.add_eq_zero_iff, Nat.mul_eq_zero, digitValue_eq_zero, ih,
      List.forall_mem_cons, or_iff_left (Nat.ne_of_gt hpow)]

theorem digitsValue_lt {base : ℕ} {digits : List Char}
    (h : ∀ c ∈ digits, isDigitOf base c = true) :
    digitsValue base digits < base ^ digits.length := by
  induction digits using List.reverseRecOn with
  | nil => simp
  | append_singleton digits c ih =>
    have hc : digitValue c < base := by simpa [isDigitOf] using h c (by simp)
    have hdigits := ih fun d hd => h d (List.mem_append_left _ hd)
    rw [digitsValue_append_singleton, List.length_append, List.length_singleton, pow_succ]
    calc digitsValue base digits * base + digitValue c
        < digitsValue base digits * base + base := by omega
      _ = (digitsValue base digits + 1) * base := by rw [Nat.add_mul, Nat.one_mul]
      _ ≤ base ^ digits.length * base := Nat.mul_le_mul_right _ hdigits

/-! ## A fixed number of digits -/

/-- The lowest digits of `n`, as many as `width` says. -/
def fixedDigits (base : ℕ) : ℕ → ℕ → List Char
  | 0, _ => []
  | width + 1, n => fixedDigits base width (n / base) ++ [Nat.digitChar (n % base)]

@[simp] theorem length_fixedDigits (base width n : ℕ) :
    (fixedDigits base width n).length = width := by
  induction width generalizing n with
  | zero => rfl
  | succ width ih => rw [fixedDigits, List.length_append, ih, List.length_singleton]

theorem isDigitOf_of_mem_fixedDigits {base width n : ℕ} (hpos : 0 < base) (hbase : base ≤ 16)
    {c : Char} (h : c ∈ fixedDigits base width n) : isDigitOf base c = true := by
  induction width generalizing n with
  | zero => simp [fixedDigits] at h
  | succ width ih =>
    rw [fixedDigits, List.mem_append, List.mem_singleton] at h
    cases h with
    | inl h => exact ih h
    | inr h =>
      rw [h]
      exact isDigitOf_digitChar hbase (Nat.mod_lt _ hpos)

theorem digitsValue_fixedDigits {base width n : ℕ} (hpos : 0 < base) (hbase : base ≤ 16)
    (h : n < base ^ width) : digitsValue base (fixedDigits base width n) = n := by
  induction width generalizing n with
  | zero =>
    rw [pow_zero] at h
    rw [fixedDigits, digitsValue_nil]
    omega
  | succ width ih =>
    have hlt := Nat.mod_lt n hpos
    have hdiv : n / base < base ^ width := by
      rw [Nat.div_lt_iff_lt_mul hpos]
      rwa [pow_succ] at h
    rw [fixedDigits, digitsValue_append_singleton, ih hdiv, digitValue_digitChar (by omega)]
    exact Nat.div_add_mod' n base

/-- Reading digits and writing them again with the same width gives the text back. -/
theorem fixedDigits_digitsValue {base : ℕ} (hbase : base ≤ 16) {digits : List Char}
    (h : ∀ c ∈ digits, isDigitOf base c = true) :
    fixedDigits base digits.length (digitsValue base digits) = digits := by
  induction digits using List.reverseRecOn with
  | nil => rfl
  | append_singleton digits c ih =>
    have hc : digitValue c < base := by simpa [isDigitOf] using h c (by simp)
    rw [List.length_append, List.length_singleton, fixedDigits, digitsValue_append_singleton,
      Nat.add_comm, Nat.add_mul_div_right _ _ (by omega), Nat.div_eq_of_lt hc, Nat.zero_add,
      Nat.add_mul_mod_self_right, Nat.mod_eq_of_lt hc, digitChar_digitValue (by omega),
      ih fun d hd => h d (List.mem_append_left _ hd)]

/-- Numbers of one width are told apart by their digits. -/
theorem fixedDigits_injective {base width n m : ℕ} (hpos : 0 < base) (hbase : base ≤ 16)
    (hn : n < base ^ width) (hm : m < base ^ width)
    (h : fixedDigits base width n = fixedDigits base width m) : n = m := by
  rw [← digitsValue_fixedDigits hpos hbase hn, h, digitsValue_fixedDigits hpos hbase hm]

/-- The number in the first `width` digits, and what follows them. -/
def takeDigits (width : ℕ) (cs : List Char) : Option (ℕ × List Char) :=
  if width ≤ cs.length ∧ (cs.take width).all (isDigitOf 10) = true then
    some (digitsValue 10 (cs.take width), cs.drop width)
  else none

/-- A text starts with the digits of the number read from it. -/
theorem takeDigits_eq_some {width n : ℕ} {cs rest : List Char} :
    takeDigits width cs = some (n, rest) ↔ n < 10 ^ width ∧ cs = fixedDigits 10 width n ++ rest := by
  unfold takeDigits
  constructor
  · intro h
    split at h
    · rename_i hdigits
      obtain ⟨hlength, hall⟩ := hdigits
      rw [Option.some.injEq, Prod.mk.injEq] at h
      obtain ⟨rfl, rfl⟩ := h
      have htake : (cs.take width).length = width := List.length_take_of_le hlength
      have hall : ∀ c ∈ cs.take width, isDigitOf 10 c = true := List.all_eq_true.mp hall
      have hlt := digitsValue_lt hall
      have hfixed := fixedDigits_digitsValue (show 10 ≤ 16 by omega) hall
      rw [htake] at hlt hfixed
      exact ⟨hlt, by rw [hfixed, List.take_append_drop]⟩
    · simp at h
  · rintro ⟨hlt, rfl⟩
    have htake : (fixedDigits 10 width n ++ rest).take width = fixedDigits 10 width n :=
      List.take_left' (length_fixedDigits ..)
    have hdrop : (fixedDigits 10 width n ++ rest).drop width = rest :=
      List.drop_left' (length_fixedDigits ..)
    have hall : (fixedDigits 10 width n).all (isDigitOf 10) = true :=
      List.all_eq_true.mpr fun c hc => isDigitOf_of_mem_fixedDigits (by omega) (by omega) hc
    rw [htake, hdrop, if_pos ⟨by simp, hall⟩,
      digitsValue_fixedDigits (by omega) (by omega) hlt]

/-! ## Text without a width -/

theorem isDigitOf_of_mem_toDigits_base {base n : ℕ} (hbase : 1 < base) (hle : base ≤ 16) {c : Char}
    (h : c ∈ Nat.toDigits base n) : isDigitOf base c = true := by
  induction n using Nat.strong_induction_on with
  | _ n ih =>
    by_cases hsmall : n < base
    · rw [Nat.toDigits_of_lt_base hsmall, List.mem_singleton] at h
      rw [h]
      exact isDigitOf_digitChar hle hsmall
    · rw [Nat.toDigits_of_base_le hbase (by omega), List.mem_append, List.mem_singleton] at h
      rcases h with h | rfl
      · exact ih _ (Nat.div_lt_self (by omega) hbase) h
      · exact isDigitOf_digitChar hle (Nat.mod_lt _ (by omega))

theorem digitsValue_toDigits_base {base : ℕ} (hbase : 1 < base) (hle : base ≤ 16) (n : ℕ) :
    digitsValue base (Nat.toDigits base n) = n := by
  induction n using Nat.strong_induction_on with
  | _ n ih =>
    by_cases hsmall : n < base
    · rw [Nat.toDigits_of_lt_base hsmall, ← List.nil_append [_], digitsValue_append_singleton,
        digitsValue_nil, Nat.zero_mul, Nat.zero_add, digitValue_digitChar (by omega)]
    · have hdigit : n % base < 16 := lt_of_lt_of_le (Nat.mod_lt n (by omega)) hle
      rw [Nat.toDigits_of_base_le hbase (by omega), digitsValue_append_singleton,
        ih _ (Nat.div_lt_self (by omega) hbase), digitValue_digitChar hdigit]
      exact Nat.div_add_mod' n base

theorem isDigitOf_of_mem_toDigits {n : ℕ} {c : Char} (h : c ∈ Nat.toDigits 10 n) :
    isDigitOf 10 c = true :=
  isDigitOf_of_mem_toDigits_base (by omega) (by omega) h

@[simp] theorem digitsValue_toDigits (n : ℕ) : digitsValue 10 (Nat.toDigits 10 n) = n :=
  digitsValue_toDigits_base (by omega) (by omega) n

theorem digitsValue_pos_of_head {digits : List Char} {c : Char} (hc : c ≠ '0') :
    0 < digitsValue 10 (c :: digits) := by
  induction digits using List.reverseRecOn with
  | nil =>
    have hvalue : digitValue c ≠ 0 := by
      intro hzero
      have hchar : Nat.digitChar (digitValue c) = c := digitChar_digitValue (by omega)
      rw [hzero] at hchar
      exact hc hchar.symm
    simpa [digitsValue] using Nat.pos_of_ne_zero hvalue
  | append_singleton digits d ih =>
    rw [← List.cons_append, digitsValue_append_singleton]
    omega

/-- A digit text without a leading zero is the decimal text of its value. -/
theorem toDigits_digitsValue {digits : List Char} (hne : digits ≠ [])
    (h : ∀ c ∈ digits, isDigitOf 10 c = true) (hlead : digits.head? = some '0' → digits = ['0']) :
    Nat.toDigits 10 (digitsValue 10 digits) = digits := by
  induction digits using List.reverseRecOn with
  | nil => exact absurd rfl hne
  | append_singleton digits c ih =>
    have hc : digitValue c < 10 := by simpa [isDigitOf] using h c (by simp)
    cases digits with
    | nil =>
      have hvalue : digitsValue 10 ([] ++ [c]) = digitValue c := by
        rw [digitsValue_append_singleton, digitsValue_nil, Nat.zero_mul, Nat.zero_add]
      rw [hvalue, Nat.toDigits_of_lt_base hc, digitChar_digitValue (by omega)]
      rfl
    | cons d rest =>
      have hd : d ≠ '0' := by
        rintro rfl
        simp at hlead
      have hpos := @digitsValue_pos_of_head rest d hd
      have hbefore := ih (by simp) (fun e he => h e (List.mem_append_left _ he))
        fun hzero => absurd (Option.some.inj hzero) hd
      rw [digitsValue_append_singleton, Nat.mul_comm, ← Nat.toDigits_append_toDigits (by omega) hpos hc,
        hbefore, Nat.toDigits_of_lt_base hc, digitChar_digitValue (by omega)]

/-! ## Bytes in hexadecimal -/

/-- `bytes.hex()`: two lower-case digits a byte. -/
def hexText (bytes : List UInt8) : List Char :=
  bytes.flatMap fun byte => fixedDigits 16 2 byte.toNat

/-- `bytes.fromhex`, of pairs of digits. -/
def hexBytes : List Char → List UInt8
  | a :: b :: rest => UInt8.ofNat (digitsValue 16 [a, b]) :: hexBytes rest
  | _ => []

@[simp] theorem length_hexText (bytes : List UInt8) : (hexText bytes).length = 2 * bytes.length := by
  induction bytes with
  | nil => rfl
  | cons byte bytes ih =>
    simp only [hexText, List.flatMap_cons, List.length_append, length_fixedDigits, List.length_cons]
      at ih ⊢
    omega

theorem isDigitOf_of_mem_hexText {bytes : List UInt8} {c : Char} (h : c ∈ hexText bytes) :
    isDigitOf 16 c = true := by
  obtain ⟨byte, -, hc⟩ := List.mem_flatMap.mp h
  exact isDigitOf_of_mem_fixedDigits (by omega) (by omega) hc

theorem fixedDigits_two (n : ℕ) :
    fixedDigits 16 2 n = [Nat.digitChar (n / 16 % 16), Nat.digitChar (n % 16)] := rfl

@[simp] theorem hexBytes_hexText (bytes : List UInt8) : hexBytes (hexText bytes) = bytes := by
  induction bytes with
  | nil => rfl
  | cons byte bytes ih =>
    have hvalue := digitsValue_fixedDigits (show 0 < 16 by omega) (Nat.le_refl 16)
      (show byte.toNat < 16 ^ 2 from byte.toNat_lt)
    rw [hexText, List.flatMap_cons, ← hexText]
    rw [fixedDigits_two] at hvalue ⊢
    rw [List.cons_append, List.cons_append, List.nil_append, hexBytes, ih, hvalue,
      UInt8.ofNat_toNat]

theorem hexText_injective : Function.Injective hexText := by
  intro x y h
  rw [← hexBytes_hexText x, h, hexBytes_hexText]

/-- Pairs of digits are the text of the bytes they are read as. -/
theorem hexText_hexBytes {cs : List Char} (hdigits : ∀ c ∈ cs, isDigitOf 16 c = true)
    (heven : cs.length % 2 = 0) : hexText (hexBytes cs) = cs := by
  induction cs using hexBytes.induct with
  | case1 a b rest ih =>
    rw [List.forall_mem_cons, List.forall_mem_cons] at hdigits
    have hpair : ∀ c ∈ [a, b], isDigitOf 16 c = true := by
      simp [hdigits.1, hdigits.2.1]
    have hlt : digitsValue 16 [a, b] < 256 := digitsValue_lt hpair
    have htext : fixedDigits 16 2 (digitsValue 16 [a, b]) = [a, b] :=
      fixedDigits_digitsValue (Nat.le_refl 16) hpair
    have hrest := ih hdigits.2.2 (by simp only [List.length_cons] at heven; omega)
    rw [hexBytes, hexText, List.flatMap_cons, ← hexText, hrest, UInt8.toNat_ofNat',
      Nat.mod_eq_of_lt hlt, htext]
    rfl
  | case2 cs hne =>
    cases cs with
    | nil => rfl
    | cons a rest =>
      cases rest with
      | nil => simp at heven
      | cons b rest => exact absurd rfl (hne a b rest)
end ForensicData.Lib
