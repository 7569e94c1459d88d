/-
ForensicData.Lib.UrlEncoding — form encoding of names and values.

A form is a list of named texts written as `name=value` pairs between
ampersands, the bytes of each name and value percent-encoded. The reader splits
the text and decodes the parts to bytes. What was written is read back: no name
and no value can add a pair or change another one.
-/
import Mathlib.Data.List.Basic
import Mathlib.Data.Nat.Notation
import Mathlib.Tactic.IntervalCases

namespace ForensicData.Lib

/-! ## Writing -/

/-- The UTF-8 bytes of a text. -/
def textBytes (text : String) : List UInt8 := text.toList.flatMap String.utf8EncodeChar

/-- A character that is written as it is. -/
def isUnreserved (c : Char) : Bool :=
  c.isAlphanum || (c = '_' || (c = '.' || (c = '-' || c = '~')))

/-- An upper-case hexadecimal digit. -/
def upperHexDigit (value : ℕ) : Char :=
  if value < 10 then Char.ofNat (48 + value) else Char.ofNat (55 + value)

/-- `%XX`. -/
def percentEncoded (byte : UInt8) : List Char :=
  ['%', upperHexDigit (byte.toNat / 16), upperHexDigit (byte.toNat % 16)]

def quoteChar (c : Char) : List Char :=
  if isUnreserved c = true then [c]
  else if c = ' ' then ['+']
  else (String.utf8EncodeChar c).flatMap percentEncoded

/-- A text with its reserved characters encoded, a space as a plus. -/
def quotePlus (text : String) : List Char := text.toList.flatMap quoteChar

def quotePair (entry : String × String) : List Char :=
  quotePlus entry.1 ++ '=' :: quotePlus entry.2

/-- The pairs, an ampersand between two of them. -/
def encodeForm (entries : List (String × String)) : List Char :=
  ['&'].intercalate (entries.map quotePair)

/-! ## Reading -/

/-- The value of a hexadecimal digit. -/
def hexDigitValue (c : Char) : Option ℕ :=
  if 48 ≤ c.toNat ∧ c.toNat ≤ 57 then some (c.toNat - 48)
  else if 65 ≤ c.toNat ∧ c.toNat ≤ 70 then some (c.toNat - 55)
  else if 97 ≤ c.toNat ∧ c.toNat ≤ 102 then some (c.toNat - 87)
  else none

/-- The byte of two hexadecimal digits. -/
def hexByte (high low : Char) : Option UInt8 :=
  match hexDigitValue high, hexDigitValue low with
  | some h, some l => some (UInt8.ofNat (16 * h + l))
  | _, _ => none

/-- The byte that a character of an encoded text stands for, with the characters
after it. -/
def unquoteNext (c : Char) (rest : List Char) : Option (UInt8 × List Char) :=
  if c = '%' then
    match rest with
    | high :: low :: others => (hexByte high low).map fun byte => (byte, others)
    | _ => none
  else if c = '+' then some (32, rest)
  else if c.toNat < 128 then some (UInt8.ofNat c.toNat, rest)
  else none

theorem length_unquoteNext {c : Char} {rest others : List Char} {byte : UInt8}
    (h : unquoteNext c rest = some (byte, others)) : others.length < rest.length + 1 := by
  unfold unquoteNext at h
  split at h
  · cases rest with
    | nil => simp at h
    | cons high rest =>
      cases rest with
      | nil => simp at h
      | cons low rest =>
        cases hbyte : hexByte high low with
        | none => simp [hbyte] at h
        | some found =>
          simp only [hbyte, Option.map_some, Option.some.injEq, Prod.mk.injEq] at h
          simp only [← h.2, List.length_cons]
          omega
  · split at h
    · simp only [Option.some.injEq, Prod.mk.injEq] at h
      simp [← h.2]
    · split at h
      · simp only [Option.some.injEq, Prod.mk.injEq] at h
        simp [← h.2]
      · cases h

/-- The bytes of an encoded text. -/
def unquotePlus (text : List Char) : Option (List UInt8) :=
  match text with
  | [] => some []
  | c :: rest =>
    match _h : unquoteNext c rest with
    | none => none
    | some (byte, others) => (unquotePlus others).map (byte :: ·)
termination_by text.length
decreasing_by exact length_unquoteNext ‹_›

/-- A pair is split at its first `=`. -/
def unquotePair (text : List Char) : Option (List UInt8 × List UInt8) :=
  match unquotePlus (text.takeWhile (· ≠ '=')),
      unquotePlus ((text.dropWhile (· ≠ '=')).drop 1) with
  | some name, some value => some (name, value)
  | _, _ => none

/-- The pairs of a form. -/
def decodeForm (text : List Char) : Option (List (List UInt8 × List UInt8)) :=
  if text = [] then some [] else (text.splitOn '&').mapM unquotePair

/-! ## One character -/

theorem hexDigitValue_upperHexDigit {value : ℕ} (h : value < 16) :
    hexDigitValue (upperHexDigit value) = some value := by
  interval_cases value <;> rfl

theorem hexByte_upperHexDigit (byte : UInt8) :
    hexByte (upperHexDigit (byte.toNat / 16)) (upperHexDigit (byte.toNat % 16)) = some byte := by
  have hlt := byte.toNat_lt
  have hhigh : hexDigitValue (upperHexDigit (byte.toNat / 16)) = some (byte.toNat / 16) :=
    hexDigitValue_upperHexDigit (by omega)
  have hlow : hexDigitValue (upperHexDigit (byte.toNat % 16)) = some (byte.toNat % 16) :=
    hexDigitValue_upperHexDigit (by omega)
  have hsum : 16 * (byte.toNat / 16) + byte.toNat % 16 = byte.toNat := by omega
  simp [hexByte, hhigh, hlow, hsum]

theorem unquotePlus_cons_of {c : Char} {rest others : List Char} {byte : UInt8}
    (h : unquoteNext c rest = some (byte, others)) :
    unquotePlus (c :: rest) = (unquotePlus others).map (byte :: ·) := by
  rw [unquotePlus]
  split
  · simp_all
  · simp_all

theorem unquotePlus_percentEncoded (byte : UInt8) (rest : List Char) :
    unquotePlus (percentEncoded byte ++ rest) = (unquotePlus rest).map (byte :: ·) := by
  apply unquotePlus_cons_of
  simp [unquoteNext, hexByte_upperHexDigit]

theorem unquotePlus_percentEncoded_all (bytes : List UInt8) (rest : List Char) :
    unquotePlus (bytes.flatMap percentEncoded ++ rest) = (unquotePlus rest).map (bytes ++ ·) := by
  induction bytes with
  | nil => simp
  | cons byte bytes ih =>
    rw [List.flatMap_cons, List.append_assoc, unquotePlus_percentEncoded, ih, Option.map_map]
    rfl

/-- A letter or a digit is ASCII. -/
theorem toNat_lt_of_isAlphanum {c : Char} (h : c.isAlphanum = true) : c.toNat < 128 := by
  have below : ∀ {high : UInt32}, high.toNat < 128 → c.val ≤ high → c.toNat < 128 := by
    intro high hhigh hle
    exact Nat.lt_of_le_of_lt (UInt32.le_iff_toNat_le.mp hle) hhigh
  rcases Bool.or_eq_true_iff.mp h with halpha | hdigit
  · rcases Bool.or_eq_true_iff.mp halpha with hupper | hlower
    · exact below (by decide) (of_decide_eq_true hupper).2
    · exact below (by decide) (of_decide_eq_true (Bool.and_eq_true_iff.mp hlower).2)
  · exact below (by decide) (of_decide_eq_true (Bool.and_eq_true_iff.mp hdigit).2)

/-- An unreserved character is ASCII, and none of the characters the encoding
uses. -/
theorem isUnreserved_cases {c : Char} (h : isUnreserved c = true) :
    c.toNat < 128 ∧ c ≠ '%' ∧ c ≠ '+' ∧ c ≠ '&' ∧ c ≠ '=' := by
  refine ⟨?_, ?_, ?_, ?_, ?_⟩
  · simp only [isUnreserved, Bool.or_eq_true, decide_eq_true_eq] at h
    rcases h with h | rfl | rfl | rfl | rfl
    · exact toNat_lt_of_isAlphanum h
    all_goals decide
  all_goals
    intro heq
    rw [heq] at h
    revert h
    decide

theorem utf8EncodeChar_of_lt {c : Char} (h : c.toNat < 128) :
    String.utf8EncodeChar c = [UInt8.ofNat c.toNat] := by
  simp only [String.utf8EncodeChar, Char.toNat_val]
  rw [if_pos (Nat.lt_succ_iff.mp h)]

theorem unquotePlus_quoteChar (c : Char) (rest : List Char) :
    unquotePlus (quoteChar c ++ rest)
      = (unquotePlus rest).map (String.utf8EncodeChar c ++ ·) := by
  unfold quoteChar
  by_cases hplain : isUnreserved c = true
  · obtain ⟨hascii, hpercent, hplus, _, _⟩ := isUnreserved_cases hplain
    rw [if_pos hplain, utf8EncodeChar_of_lt hascii]
    apply unquotePlus_cons_of
    simp [unquoteNext, hpercent, hplus, hascii]
  · rw [if_neg hplain]
    by_cases hspace : c = ' '
    · rw [if_pos hspace, hspace]
      apply unquotePlus_cons_of
      rfl
    · rw [if_neg hspace]
      exact unquotePlus_percentEncoded_all _ rest

/-! ## What was written is read back -/

theorem unquotePlus_quotePlus (text : String) :
    unquotePlus (quotePlus text) = some (textBytes text) := by
  unfold quotePlus textBytes
  induction text.toList with
  | nil => simp [unquotePlus]
  | cons c rest ih =>
    rw [List.flatMap_cons, List.flatMap_cons, unquotePlus_quoteChar, ih]
    rfl

/-- No hexadecimal digit separates. -/
theorem upperHexDigit_ne {value : ℕ} (h : value < 16) :
    upperHexDigit value ≠ '&' ∧ upperHexDigit value ≠ '=' := by
  interval_cases value <;> decide

theorem not_mem_percentEncoded {c : Char} (hc : c = '&' ∨ c = '=') (byte : UInt8) :
    c ∉ percentEncoded byte := by
  have hlt := byte.toNat_lt
  have hhigh := @upperHexDigit_ne (byte.toNat / 16) (by omega)
  have hlow := @upperHexDigit_ne (byte.toNat % 16) (by omega)
  rcases hc with rfl | rfl
  · simp [percentEncoded, hhigh.1.symm, hlow.1.symm]
  · simp [percentEncoded, hhigh.2.symm, hlow.2.symm]

theorem not_mem_quoteChar {c : Char} (hc : c = '&' ∨ c = '=') (source : Char) :
    c ∉ quoteChar source := by
  unfold quoteChar
  by_cases hplain : isUnreserved source = true
  · obtain ⟨_, _, _, hand, hequals⟩ := isUnreserved_cases hplain
    rw [if_pos hplain]
    rcases hc with rfl | rfl
    · simpa using hand.symm
    · simpa using hequals.symm
  · rw [if_neg hplain]
    by_cases hspace : source = ' '
    · rw [if_pos hspace]
      rcases hc with rfl | rfl <;> decide
    · rw [if_neg hspace]
      intro hmem
      obtain ⟨byte, _, hmem⟩ := List.mem_flatMap.mp hmem
      exact not_mem_percentEncoded hc byte hmem

/-- The characters of an encoded text: none of them separates pairs, or a name
from its value. -/
theorem not_mem_quotePlus {c : Char} (hc : c = '&' ∨ c = '=') (text : String) :
    c ∉ quotePlus text := by
  intro hmem
  obtain ⟨source, _, hmem⟩ := List.mem_flatMap.mp hmem
  exact not_mem_quoteChar hc source hmem

theorem unquotePair_quotePair (entry : String × String) :
    unquotePair (quotePair entry) = some (textBytes entry.1, textBytes entry.2) := by
  have hname : ∀ c ∈ quotePlus entry.1, (decide (c ≠ '=')) = true := fun c hc => by
    simp only [decide_eq_true_eq]
    rintro rfl
    exact not_mem_quotePlus (.inr rfl) entry.1 hc
  have htake : (quotePair entry).takeWhile (· ≠ '=') = quotePlus entry.1 := by
    rw [quotePair, List.takeWhile_append_of_pos hname]
    simp
  have hdrop : (quotePair entry).dropWhile (· ≠ '=') = '=' :: quotePlus entry.2 := by
    rw [quotePair, List.dropWhile_append_of_pos hname]
    simp
  rw [unquotePair, htake, hdrop]
  simp [unquotePlus_quotePlus]

/-- A form is read back pair by pair. -/
theorem decodeForm_encodeForm (entries : List (String × String)) :
    decodeForm (encodeForm entries)
      = some (entries.map fun entry => (textBytes entry.1, textBytes entry.2)) := by
  by_cases hempty : entries = []
  · subst hempty
    rfl
  · have hparts : ∀ part ∈ entries.map quotePair, '&' ∉ part := by
      intro part hpart
      obtain ⟨entry, _, rfl⟩ := List.mem_map.mp hpart
      simp [quotePair, not_mem_quotePlus (.inl rfl)]
    have hsplit : (encodeForm entries).splitOn '&' = entries.map quotePair :=
      List.splitOn_intercalate '&' hparts (by simpa using hempty)
    have hne : encodeForm entries ≠ [] := by
      intro hnil
      rw [hnil] at hsplit
      obtain ⟨entry, rest, rfl⟩ := List.exists_cons_of_ne_nil hempty
      simp [quotePair] at hsplit
    have hread : (unquotePair ∘ quotePair)
        = fun entry => some (textBytes entry.1, textBytes entry.2) :=
      funext unquotePair_quotePair
    rw [decodeForm, if_neg hne, hsplit, List.mapM_map, hread]
    exact List.mapM_pure

end ForensicData.Lib
