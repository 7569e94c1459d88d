/-
ForensicData.Lib.Utf16 — texts as UTF-16 code units.

A character beyond the basic plane is a high surrogate and a low one. Strict
decoding takes exactly the units of a text (`decode_eq_some_iff`) and refuses
exactly those with a surrogate that is not part of a pair
(`decode_eq_none_iff`).
-/
import Mathlib.Data.List.Basic

namespace ForensicData.Lib.Utf16

/-! ## Units -/

/-- A unit that begins a pair. -/
def IsHigh (unit : UInt16) : Prop := 0xD800 ≤ unit.toNat ∧ unit.toNat ≤ 0xDBFF

/-- A unit that ends a pair. -/
def IsLow (unit : UInt16) : Prop := 0xDC00 ≤ unit.toNat ∧ unit.toNat ≤ 0xDFFF

instance (unit : UInt16) : Decidable (IsHigh unit) := inferInstanceAs (Decidable (_ ∧ _))

instance (unit : UInt16) : Decidable (IsLow unit) := inferInstanceAs (Decidable (_ ∧ _))

theorem IsHigh.not_isLow {unit : UInt16} (h : IsHigh unit) : ¬ IsLow unit := by
  unfold IsHigh at h
  unfold IsLow
  omega

theorem IsLow.not_isHigh {unit : UInt16} (h : IsLow unit) : ¬ IsHigh unit :=
  fun hhigh => hhigh.not_isLow h

/-- The value of a pair. -/
def pairValue (high low : UInt16) : ℕ :=
  0x10000 + (high.toNat - 0xD800) * 0x400 + (low.toNat - 0xDC00)

/-! ## Encoding and decoding -/

def encodeChar (c : Char) : List UInt16 :=
  if c.toNat ≤ 0xFFFF then [UInt16.ofNat c.toNat]
  else
    [UInt16.ofNat (0xD800 + (c.toNat - 0x10000) / 0x400),
     UInt16.ofNat (0xDC00 + (c.toNat - 0x10000) % 0x400)]

def encode (text : List Char) : List UInt16 := text.flatMap encodeChar

/-- Strict decoding. -/
def decode : List UInt16 → Option (List Char)
  | [] => some []
  | unit :: rest =>
    if IsHigh unit then
      match rest with
      | [] => none
      | next :: rest =>
        if IsLow next then (decode rest).map (Char.ofNat (pairValue unit next) :: ·) else none
    else if IsLow unit then none
    else (decode rest).map (Char.ofNat unit.toNat :: ·)

/-- How units begin: with a scalar, with a pair or with a surrogate that is not
part of a pair. -/
inductive Reading : List UInt16 → Prop
  | nil : Reading []
  | scalar {unit : UInt16} {rest : List UInt16} (hhigh : ¬ IsHigh unit) (hlow : ¬ IsLow unit)
    (h : Reading rest) : Reading (unit :: rest)
  | pair {high low : UInt16} {rest : List UInt16} (hhigh : IsHigh high) (hlow : IsLow low)
    (h : Reading rest) : Reading (high :: low :: rest)
  | loneHigh {unit : UInt16} {rest : List UInt16} (hhigh : IsHigh unit)
    (hnext : ∀ next ∈ rest.head?, ¬ IsLow next) : Reading (unit :: rest)
  | loneLow {unit : UInt16} {rest : List UInt16} (hlow : IsLow unit) : Reading (unit :: rest)

theorem reading (units : List UInt16) : Reading units := by
  induction hlength : units.length using Nat.strongRecOn generalizing units with
  | ind length ih =>
    cases units with
    | nil => exact .nil
    | cons unit rest =>
      rw [List.length_cons] at hlength
      by_cases hhigh : IsHigh unit
      · cases rest with
        | nil => exact .loneHigh hhigh (by simp)
        | cons next rest =>
          rw [List.length_cons] at hlength
          by_cases hlow : IsLow next
          · exact .pair hhigh hlow (ih rest.length (by omega) rest rfl)
          · exact .loneHigh hhigh (by simpa using hlow)
      · by_cases hlow : IsLow unit
        · exact .loneLow hlow
        · exact .scalar hhigh hlow (ih rest.length (by omega) rest rfl)

section
variable {unit high low : UInt16} {rest : List UInt16}

@[simp] theorem decode_nil : decode [] = some [] := rfl

theorem decode_scalar (hhigh : ¬ IsHigh unit) (hlow : ¬ IsLow unit) :
    decode (unit :: rest) = (decode rest).map (Char.ofNat unit.toNat :: ·) := by
  rw [decode.eq_def]
  simp only [if_neg hhigh, if_neg hlow]

theorem decode_pair (hhigh : IsHigh high) (hlow : IsLow low) :
    decode (high :: low :: rest) =
      (decode rest).map (Char.ofNat (pairValue high low) :: ·) := by
  rw [decode.eq_def]
  simp only [if_pos hhigh, if_pos hlow]

theorem decode_loneHigh (hhigh : IsHigh unit) (hnext : ∀ next ∈ rest.head?, ¬ IsLow next) :
    decode (unit :: rest) = none := by
  rw [decode.eq_def]
  cases rest with
  | nil => simp only [if_pos hhigh]
  | cons next rest => simp only [if_pos hhigh, if_neg (hnext next rfl)]

theorem decode_loneLow (hlow : IsLow unit) : decode (unit :: rest) = none := by
  rw [decode.eq_def]
  simp only [if_neg hlow.not_isHigh, if_pos hlow]

end

/-! ## The units of a text -/

theorem toNat_ofNat_of_isValidChar {n : ℕ} (h : n.isValidChar) : (Char.ofNat n).toNat = n := by
  rw [Char.ofNat, dif_pos h]
  rfl

theorem toNat_ofNat_unit {n : ℕ} (h : n < 65536) : (UInt16.ofNat n).toNat = n :=
  UInt16.toNat_ofNat_of_lt h

theorem toNat_ofNat_scalar {unit : UInt16} (hhigh : ¬ IsHigh unit) (hlow : ¬ IsLow unit) :
    (Char.ofNat unit.toNat).toNat = unit.toNat := by
  have hunit := unit.toNat_lt
  unfold IsHigh at hhigh
  unfold IsLow at hlow
  refine toNat_ofNat_of_isValidChar ?_
  unfold Nat.isValidChar
  omega

/-- The value of a pair is that of a character beyond the basic plane. -/
theorem toNat_ofNat_pair {high low : UInt16} (hhigh : IsHigh high) (hlow : IsLow low) :
    (Char.ofNat (pairValue high low)).toNat = pairValue high low := by
  unfold IsHigh at hhigh
  unfold IsLow at hlow
  refine toNat_ofNat_of_isValidChar ?_
  unfold Nat.isValidChar pairValue
  omega

theorem encodeChar_scalar {unit : UInt16} (hhigh : ¬ IsHigh unit) (hlow : ¬ IsLow unit) :
    encodeChar (Char.ofNat unit.toNat) = [unit] := by
  have hunit := unit.toNat_lt
  rw [encodeChar, toNat_ofNat_scalar hhigh hlow, if_pos (by omega), UInt16.ofNat_toNat]

theorem encodeChar_pair {high low : UInt16} (hhigh : IsHigh high) (hlow : IsLow low) :
    encodeChar (Char.ofNat (pairValue high low)) = [high, low] := by
  rw [encodeChar, toNat_ofNat_pair hhigh hlow]
  unfold IsHigh at hhigh
  unfold IsLow at hlow
  have hfirst : 0xD800 + (pairValue high low - 0x10000) / 0x400 = high.toNat := by
    unfold pairValue
    omega
  have hsecond : 0xDC00 + (pairValue high low - 0x10000) % 0x400 = low.toNat := by
    unfold pairValue
    omega
  rw [if_neg (by unfold pairValue; omega), hfirst, hsecond, UInt16.ofNat_toNat, UInt16.ofNat_toNat]

/-- The units of a character are a scalar or a pair, and stand for it. -/
theorem decode_encodeChar_append (c : Char) (rest : List UInt16) :
    decode (encodeChar c ++ rest) = (decode rest).map (c :: ·) := by
  have hvalid : c.toNat < 0xD800 ∨ (0xDFFF < c.toNat ∧ c.toNat < 0x110000) := c.valid
  unfold encodeChar
  by_cases hplane : c.toNat ≤ 0xFFFF
  · have htoNat : (UInt16.ofNat c.toNat).toNat = c.toNat := toNat_ofNat_unit (by omega)
    rw [if_pos hplane, List.singleton_append, decode_scalar, htoNat, Char.ofNat_toNat]
    · unfold IsHigh
      omega
    · unfold IsLow
      omega
  · rw [if_neg hplane]
    obtain ⟨offset, hoffset⟩ : ∃ offset, c.toNat = 0x10000 + offset :=
      ⟨c.toNat - 0x10000, by omega⟩
    have hhigh : (UInt16.ofNat (0xD800 + offset / 0x400)).toNat = 0xD800 + offset / 0x400 :=
      toNat_ofNat_unit (by omega)
    have hlow : (UInt16.ofNat (0xDC00 + offset % 0x400)).toNat = 0xDC00 + offset % 0x400 :=
      toNat_ofNat_unit (by omega)
    have hpair : pairValue (UInt16.ofNat (0xD800 + offset / 0x400))
        (UInt16.ofNat (0xDC00 + offset % 0x400)) = c.toNat := by
      unfold pairValue
      omega
    have hsub : c.toNat - 0x10000 = offset := by omega
    rw [hsub, List.cons_append, List.singleton_append, decode_pair, hpair, Char.ofNat_toNat]
    · unfold IsHigh
      omega
    · unfold IsLow
      omega

@[simp] theorem decode_encode (text : List Char) : decode (encode text) = some text := by
  induction text with
  | nil => rfl
  | cons c text ih =>
    show decode (encodeChar c ++ encode text) = some (c :: text)
    rw [decode_encodeChar_append, ih]
    rfl

/-- Decoding takes the units of a text and no others. -/
theorem decode_eq_some_iff {units : List UInt16} {text : List Char} :
    decode units = some text ↔ units = encode text := by
  constructor
  · intro h
    induction reading units generalizing text with
    | nil =>
      obtain rfl := Option.some.inj h
      rfl
    | scalar hhigh hlow _ ih =>
      rw [decode_scalar hhigh hlow, Option.map_eq_some_iff] at h
      obtain ⟨text, hrest, rfl⟩ := h
      rw [ih hrest]
      show _ = encodeChar _ ++ encode text
      rw [encodeChar_scalar hhigh hlow, List.singleton_append]
    | pair hhigh hlow _ ih =>
      rw [decode_pair hhigh hlow, Option.map_eq_some_iff] at h
      obtain ⟨text, hrest, rfl⟩ := h
      rw [ih hrest]
      show _ = encodeChar _ ++ encode text
      rw [encodeChar_pair hhigh hlow]
      rfl
    | loneHigh hhigh hnext =>
      rw [decode_loneHigh hhigh hnext] at h
      cases h
    | loneLow hlow =>
      rw [decode_loneLow hlow] at h
      cases h
  · intro h
    rw [h, decode_encode]

/-! ## Surrogates outside of pairs -/

/-- A high surrogate that no low one follows, or a low one that follows no high
one. -/
def HasLoneSurrogate (units : List UInt16) : Prop :=
  ∃ before unit rest, units = before ++ unit :: rest ∧
    ((IsHigh unit ∧ ∀ next ∈ rest.head?, ¬ IsLow next) ∨
      (IsLow unit ∧ ∀ previous ∈ before.getLast?, ¬ IsHigh previous))

theorem hasLoneSurrogate_scalar {unit : UInt16} {rest : List UInt16} (hhigh : ¬ IsHigh unit)
    (hlow : ¬ IsLow unit) : HasLoneSurrogate (unit :: rest) ↔ HasLoneSurrogate rest := by
  constructor
  · intro h
    obtain ⟨before, lone, after, hunits, h⟩ := h
    cases before with
    | nil =>
      simp only [List.nil_append, List.cons.injEq] at hunits
      rw [hunits.1] at hhigh hlow
      tauto
    | cons first before =>
      simp only [List.cons_append, List.cons.injEq] at hunits
      refine ⟨before, lone, after, hunits.2, ?_⟩
      cases before with
      | nil =>
        simp only [List.getLast?_singleton, List.getLast?_nil] at h ⊢
        exact h.imp_right fun hlone => ⟨hlone.1, by simp⟩
      | cons second before => simpa using h
  · intro h
    obtain ⟨before, lone, after, hunits, h⟩ := h
    refine ⟨unit :: before, lone, after, by rw [hunits]; rfl, ?_⟩
    cases before with
    | nil => simpa [hhigh] using h
    | cons second before => simpa using h

theorem hasLoneSurrogate_pair {high low : UInt16} {rest : List UInt16} (hhigh : IsHigh high)
    (hlow : IsLow low) : HasLoneSurrogate (high :: low :: rest) ↔ HasLoneSurrogate rest := by
  constructor
  · intro h
    obtain ⟨before, lone, after, hunits, h⟩ := h
    match before with
    | [] =>
      simp only [List.nil_append, List.cons.injEq] at hunits
      obtain ⟨rfl, rfl⟩ := hunits
      simp [hlow, hhigh.not_isLow] at h
    | [first] =>
      simp only [List.cons_append, List.nil_append, List.cons.injEq] at hunits
      obtain ⟨rfl, rfl, rfl⟩ := hunits
      simp [hhigh, hlow.not_isHigh] at h
    | first :: second :: before =>
      simp only [List.cons_append, List.cons.injEq] at hunits
      refine ⟨before, lone, after, hunits.2.2, ?_⟩
      cases before with
      | nil =>
        rw [← hunits.2.1] at h
        simpa [hlow.not_isHigh] using h
      | cons third before => simpa using h
  · intro h
    obtain ⟨before, lone, after, hunits, h⟩ := h
    refine ⟨high :: low :: before, lone, after, by rw [hunits]; rfl, ?_⟩
    cases before with
    | nil => simpa [hlow.not_isHigh] using h
    | cons third before => simpa using h

/-- Decoding refuses exactly the units with a surrogate outside of a pair. -/
theorem decode_eq_none_iff {units : List UInt16} :
    decode units = none ↔ HasLoneSurrogate units := by
  induction reading units with
  | nil => simp [HasLoneSurrogate]
  | scalar hhigh hlow _ ih =>
    rw [decode_scalar hhigh hlow, Option.map_eq_none_iff, ih, hasLoneSurrogate_scalar hhigh hlow]
  | pair hhigh hlow _ ih =>
    rw [decode_pair hhigh hlow, Option.map_eq_none_iff, ih, hasLoneSurrogate_pair hhigh hlow]
  | loneHigh hhigh hnext =>
    simp only [decode_loneHigh hhigh hnext, true_iff]
    exact ⟨[], _, _, rfl, .inl ⟨hhigh, hnext⟩⟩
  | loneLow hlow =>
    simp only [decode_loneLow hlow, true_iff]
    exact ⟨[], _, _, rfl, .inr ⟨hlow, by simp⟩⟩

end ForensicData.Lib.Utf16
