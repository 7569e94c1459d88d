/-
ForensicData.ClickHouse.ExceptionFrame — what the frame parser accepts.

A well-formed frame is the opening with the tag, a message that ends in a line
feed, the length of the message in decimal and the closing. The parser yields
a message exactly for a body that ends with such a frame
(`exceptionMessageOf_eq_some_iff`): digits hold no line feed, so the last one before
the closing ends the message, and a decimal text is that of its value.
-/
import ForensicData.Canonical.PayloadTheorems
import ForensicData.ClickHouse.HttpResponse

namespace ForensicData.ClickHouse

open ForensicData.Canonical
open ForensicData.Lib

/-! ## Decimal texts -/

/-- The decimal text of a number as bytes. -/
def decimalBytes (n : ℕ) : Bytes := asciiBytes (Nat.toDigits 10 n)

theorem isDigitByte_iff {byte : UInt8} : isDigitByte byte = true ↔
    48 ≤ byte.toNat ∧ byte.toNat ≤ 57 := by
  rw [isDigitByte, Bool.and_eq_true, decide_eq_true_eq, decide_eq_true_eq, UInt8.le_iff_toNat_le,
    UInt8.le_iff_toNat_le]
  rfl

theorem isDigitOf_iff {c : Char} : isDigitOf 10 c = true ↔ 48 ≤ c.toNat ∧ c.toNat ≤ 57 := by
  rw [isDigitOf, decide_eq_true_eq]
  unfold digitValue
  split
  · omega
  · split <;> omega

/-- The character of an ASCII byte. -/
theorem toNat_ofNat_digit {byte : UInt8} (h : isDigitByte byte = true) :
    (Char.ofNat byte.toNat).toNat = byte.toNat := by
  have hrange := isDigitByte_iff.mp h
  exact toNat_ofNat_of_ascii (by omega)

theorem isDigitByte_of_mem_decimalBytes {n : ℕ} {byte : UInt8} (h : byte ∈ decimalBytes n) :
    isDigitByte byte = true := by
  obtain ⟨c, hc, rfl⟩ := List.mem_map.mp h
  have hdigit := isDigitOf_iff.mp (isDigitOf_of_mem_toDigits hc)
  rw [isDigitByte_iff, ofNat_toNat_of_ascii (by omega)]
  exact hdigit

theorem map_ofNat_asciiBytes {text : List Char} (h : ∀ c ∈ text, isDigitOf 10 c = true) :
    ((asciiBytes text).map fun byte => Char.ofNat byte.toNat) = text := by
  unfold asciiBytes
  rw [List.map_map]
  conv_rhs => rw [← List.map_id text]
  refine List.map_congr_left fun c hc => ?_
  have hdigit := isDigitOf_iff.mp (h c hc)
  rw [Function.comp_apply, ofNat_toNat_of_ascii (by omega), Char.ofNat_toNat]
  rfl

@[simp] theorem decimalValue_decimalBytes (n : ℕ) : decimalValue (decimalBytes n) = n := by
  unfold decimalValue decimalBytes
  rw [map_ofNat_asciiBytes fun c hc => isDigitOf_of_mem_toDigits hc, digitsValue_toDigits]

theorem isPositiveDecimal_iff {count : ℕ} {digits : Bytes} :
    isPositiveDecimal count digits = true ↔
      digits ≠ [] ∧ (∀ byte ∈ digits, isDigitByte byte = true) ∧ digits.head? ≠ some 48 ∧
        digits.length ≤ count + 1 := by
  cases digits with
  | nil => simp [isPositiveDecimal]
  | cons first rest =>
    simp only [isPositiveDecimal, Bool.and_eq_true, decide_eq_true_eq, List.all_eq_true, ne_eq,
      reduceCtorEq, not_false_eq_true, true_and, List.mem_cons, forall_eq_or_imp, List.head?_cons,
      Option.some.injEq, List.length_cons, Nat.add_le_add_iff_right]
    tauto

/-- A decimal text without a leading zero is that of its value. -/
theorem decimalBytes_decimalValue {count : ℕ} {digits : Bytes}
    (h : isPositiveDecimal count digits = true) : decimalBytes (decimalValue digits) = digits := by
  obtain ⟨hne, hdigits, hhead, -⟩ := isPositiveDecimal_iff.mp h
  unfold decimalBytes decimalValue
  rw [toDigits_digitsValue]
  · unfold asciiBytes
    rw [List.map_map]
    conv_rhs => rw [← List.map_id digits]
    refine List.map_congr_left fun byte hbyte => ?_
    rw [Function.comp_apply, toNat_ofNat_digit (hdigits byte hbyte), UInt8.ofNat_toNat]
    rfl
  · simpa using hne
  · intro c hc
    obtain ⟨byte, hbyte, rfl⟩ := List.mem_map.mp hc
    rw [isDigitOf_iff, toNat_ofNat_digit (hdigits byte hbyte)]
    exact isDigitByte_iff.mp (hdigits byte hbyte)
  · intro hzero
    exfalso
    cases digits with
    | nil => exact hne rfl
    | cons first rest =>
      simp only [List.map_cons, List.head?_cons, Option.some.injEq] at hzero hhead
      have htoNat := toNat_ofNat_digit (hdigits first List.mem_cons_self)
      rw [hzero] at htoNat
      exact hhead (congrArg some (UInt8.toNat_inj.mp htoNat.symm))

theorem head_decimalBytes {n : ℕ} (hpos : 0 < n) : (decimalBytes n).head? ≠ some 48 := by
  obtain ⟨c, cs, hdigits, -⟩ := toDigits_eq_cons n
  have hc := head_toDigits hpos hdigits
  have hrange := isDigitOf_iff.mp (isDigitOf_of_mem_toDigits
    (show c ∈ Nat.toDigits 10 n by rw [hdigits]; exact List.mem_cons_self))
  unfold decimalBytes asciiBytes
  rw [hdigits, List.map_cons, List.head?_cons]
  intro hzero
  rw [Option.some.injEq] at hzero
  have htoNat : c.toNat = 48 := by
    rw [← ofNat_toNat_of_ascii (show c.toNat < 128 by omega), hzero]
    rfl
  apply hc
  rw [← Char.ofNat_toNat c, htoNat]

/-- The length of a message that fits a frame is a decimal text of the pattern. -/
theorem isPositiveDecimal_decimalBytes {n count : ℕ} (hpos : 0 < n)
    (h : n < 10 ^ (count + 1)) : isPositiveDecimal count (decimalBytes n) = true := by
  refine isPositiveDecimal_iff.mpr ⟨?_, fun byte => isDigitByte_of_mem_decimalBytes,
    head_decimalBytes hpos, ?_⟩
  · obtain ⟨c, cs, hdigits, -⟩ := toDigits_eq_cons n
    simp [decimalBytes, asciiBytes, hdigits]
  · rw [decimalBytes, asciiBytes, List.length_map]
    exact (Nat.length_toDigits_le_iff (by omega) (Nat.succ_pos count)).mpr h

/-! ## The last line feed -/

theorem rfindByte_eq_none {byte : UInt8} {text : Bytes} :
    rfindByte byte text = none ↔ byte ∉ text := by
  induction text with
  | nil => simp [rfindByte]
  | cons first rest ih =>
    rw [rfindByte]
    cases h : rfindByte byte rest with
    | none =>
      simp only [ih.mp h, List.mem_cons, or_false]
      by_cases hfirst : first = byte
      · simp [hfirst]
      · simp [hfirst, Ne.symm hfirst]
    | some index =>
      have hmem : byte ∈ rest := by
        by_contra hnot
        rw [ih.mpr hnot] at h
        cases h
      simp [hmem]

theorem rfindByte_eq_some {byte : UInt8} {text : Bytes} {index : ℕ} :
    rfindByte byte text = some index ↔
      ∃ before after, text = before ++ byte :: after ∧ byte ∉ after ∧ index = before.length := by
  induction text generalizing index with
  | nil => simp [rfindByte]
  | cons first rest ih =>
    rw [rfindByte]
    cases h : rfindByte byte rest with
    | none =>
      have hnot := rfindByte_eq_none.mp h
      by_cases hfirst : first = byte
      · subst hfirst
        simp only [if_true, Option.some.injEq]
        constructor
        · intro hindex
          exact ⟨[], rest, rfl, hnot, hindex.symm⟩
        · intro hsplit
          obtain ⟨before, after, htext, -, rfl⟩ := hsplit
          cases before with
          | nil => rfl
          | cons b before =>
            simp only [List.cons_append, List.cons.injEq] at htext
            exact absurd (htext.2 ▸ List.mem_append_right _ List.mem_cons_self) hnot
      · simp only [hfirst, if_false, reduceCtorEq, false_iff]
        intro hsplit
        obtain ⟨before, after, htext, -, -⟩ := hsplit
        cases before with
        | nil => exact hfirst (List.cons.inj htext).1
        | cons b before =>
          simp only [List.cons_append, List.cons.injEq] at htext
          exact hnot (htext.2 ▸ List.mem_append_right _ List.mem_cons_self)
    | some found =>
      obtain ⟨before, after, hrest, hafter, hfound⟩ := ih.mp h
      simp only [Option.some.injEq]
      constructor
      · intro hindex
        exact ⟨first :: before, after, by rw [hrest]; rfl, hafter, by
          rw [← hindex, hfound, List.length_cons]⟩
      · intro hsplit
        obtain ⟨before', after', htext, hafter', rfl⟩ := hsplit
        cases before' with
        | nil =>
          simp only [List.nil_append, List.cons.injEq] at htext
          rw [← htext.2, hrest] at hafter'
          exact absurd (List.mem_append_right _ List.mem_cons_self) hafter'
        | cons b before' =>
          simp only [List.cons_append, List.cons.injEq] at htext
          have hsame := ih.mpr ⟨before', after', htext.2, hafter', rfl⟩
          rw [h, Option.some.injEq] at hsame
          rw [hsame, List.length_cons]

/-! ## Frames -/

/-- The frame the server appends for a message. -/
def exceptionFrame (tag message : Bytes) : Bytes :=
  frameOpening tag ++ message ++ decimalBytes message.length ++ frameClosing tag

/-- The message ends in a line feed and the frame is within its limit. -/
structure WellFormedFrame (tag message : Bytes) : Prop where
  ends : message.getLast? = some 10
  fits : (exceptionFrame tag message).length ≤ exceptionFrameMaxBytes

theorem length_exceptionFrame (tag message : Bytes) : (exceptionFrame tag message).length =
    (frameOpening tag).length + message.length + (decimalBytes message.length).length +
      (frameClosing tag).length := by
  simp [exceptionFrame]
  omega

theorem WellFormedFrame.isPositiveDecimal {tag message : Bytes} (h : WellFormedFrame tag message) :
    isPositiveDecimal 7 (decimalBytes message.length) = true := by
  have hne : message ≠ [] := by
    rintro rfl
    exact absurd h.ends (by simp)
  have hfits := h.fits
  rw [length_exceptionFrame, exceptionFrameMaxBytes] at hfits
  apply isPositiveDecimal_decimalBytes (List.length_pos_iff.mpr hne)
  show message.length < 100000000
  omega

/-- A body that ends with a well-formed frame has its message. -/
theorem exceptionMessageOf_frame {tag message : Bytes} (h : WellFormedFrame tag message)
    (data : Bytes) : exceptionMessageOf (data ++ exceptionFrame tag message) tag = some message := by
  obtain ⟨front, hfront⟩ : ∃ front, message = front ++ [10] :=
    ⟨message.dropLast, (List.dropLast_append_getLast? 10 h.ends).symm⟩
  let opened := data ++ frameOpening tag
  let digits := decimalBytes message.length
  have hbody : data ++ exceptionFrame tag message =
      opened ++ message ++ digits ++ frameClosing tag := by
    simp [exceptionFrame, opened, digits]
  have hsuffix : (frameClosing tag).isSuffixOf (opened ++ message ++ digits ++ frameClosing tag) =
      true := List.isSuffixOf_iff_suffix.mpr (List.suffix_append _ _)
  have hbefore : (opened ++ message ++ digits ++ frameClosing tag).take
      ((opened ++ message ++ digits ++ frameClosing tag).length - (frameClosing tag).length) =
      opened ++ message ++ digits := by
    rw [List.length_append, Nat.add_sub_cancel, List.take_left]
  have hnewline : rfindByte 10 (opened ++ message ++ digits) = some (opened ++ front).length := by
    refine rfindByte_eq_some.mpr ⟨opened ++ front, digits, by simp [hfront], ?_, rfl⟩
    intro hmem
    exact absurd (isDigitByte_of_mem_decimalBytes hmem) (by decide)
  have hstart : (opened ++ front).length + 1 = (opened ++ message).length := by
    simp [hfront]
    omega
  have hlength : (opened ++ message ++ digits).drop (opened ++ message).length = digits := by
    simp
  have hroom : ¬(opened ++ message).length < message.length + (frameOpening tag).length := by
    simp [opened]
    omega
  have hmessage : (opened ++ message).length - message.length = opened.length := by simp
  have hopening : ((opened ++ message ++ digits ++ frameClosing tag).take opened.length).drop
      (opened.length - (frameOpening tag).length) = frameOpening tag := by
    rw [List.append_assoc, List.append_assoc, List.take_left]
    simp [opened]
  have htext : ((opened ++ message ++ digits ++ frameClosing tag).take
      (opened ++ message).length).drop opened.length = message := by
    rw [List.append_assoc (opened ++ message), List.take_left]
    simp
  have hframe : ((opened ++ message ++ digits ++ frameClosing tag).drop
      (opened.length - (frameOpening tag).length)).length =
      (exceptionFrame tag message).length := by
    rw [length_exceptionFrame]
    simp [opened, digits]
    omega
  rw [hbody]
  unfold exceptionMessageOf
  simp only [hsuffix, hbefore, hnewline, hstart, hlength, digits, h.isPositiveDecimal,
    decimalValue_decimalBytes, Bool.true_eq_false, if_false]
  simp only [hroom, hmessage, hopening, htext, hframe, h.ends, digits, ne_eq, not_true_eq_false,
    if_false, if_neg (Nat.not_lt.mpr h.fits)]

/-- A message is found only in a body that ends with its frame. -/
theorem frame_of_exceptionMessageOf {body tag message : Bytes}
    (h : exceptionMessageOf body tag = some message) :
    (∃ data, body = data ++ exceptionFrame tag message) ∧ WellFormedFrame tag message := by
  unfold exceptionMessageOf at h
  simp only at h
  split at h
  · cases h
  rename_i hsuffix
  obtain ⟨before, rfl⟩ := List.isSuffixOf_iff_suffix.mp ((Bool.not_eq_false _).mp hsuffix)
  rw [List.length_append, Nat.add_sub_cancel, List.take_left] at h
  split at h
  · cases h
  rename_i newline hnewline
  obtain ⟨front, digits, rfl, -, rfl⟩ := rfindByte_eq_some.mp hnewline
  have hbefore : front ++ 10 :: digits = (front ++ [10]) ++ digits := by simp
  have hstart : front.length + 1 = (front ++ [10]).length := by simp
  rw [hbefore, hstart, List.drop_left] at h
  rw [hbefore]
  generalize front ++ [10] = text at h ⊢
  split at h
  · cases h
  rename_i hdigits
  split at h
  · cases h
  rename_i hroom
  -- The text up to the digits is what comes before the message and the message.
  obtain ⟨opened, tail, rfl, htail⟩ : ∃ opened tail, text = opened ++ tail ∧
      tail.length = decimalValue digits :=
    ⟨text.take (text.length - decimalValue digits), text.drop (text.length - decimalValue digits),
      (List.take_append_drop _ _).symm, by rw [List.length_drop]; omega⟩
  have hmessage : (opened ++ tail).length - decimalValue digits = opened.length := by
    rw [List.length_append]
    omega
  have hbody : opened ++ tail ++ digits ++ frameClosing tag =
      opened ++ (tail ++ digits ++ frameClosing tag) := by simp
  have htake : (opened ++ tail ++ digits ++ frameClosing tag).take (opened ++ tail).length =
      opened ++ tail := by
    rw [List.append_assoc (opened ++ tail), List.take_left]
  rw [hmessage, htake, List.drop_left] at h
  rw [hbody, List.take_left] at h
  split at h
  · cases h
  rename_i hopening
  split at h
  · cases h
  rename_i hends
  split at h
  · cases h
  rename_i hfits
  obtain rfl : tail = message := Option.some.inj h
  have hopened := (List.take_append_drop (opened.length - (frameOpening tag).length) opened).symm
  rw [Classical.not_not.mp hopening] at hopened
  obtain ⟨data, rfl⟩ : ∃ data, opened = data ++ frameOpening tag := ⟨_, hopened⟩
  have htext : decimalBytes tail.length = digits := by
    rw [htail]
    exact decimalBytes_decimalValue ((Bool.not_eq_false _).mp hdigits)
  have hframe : frameOpening tag ++ (tail ++ digits ++ frameClosing tag) =
      exceptionFrame tag tail := by
    rw [exceptionFrame, htext]
    simp
  refine ⟨⟨data, ?_⟩, Classical.not_not.mp hends, ?_⟩
  · rw [← hframe]
    simp
  · rw [← hframe]
    simpa using hfits

/-- The parser finds a message exactly in a body that ends with its frame. -/
theorem exceptionMessageOf_eq_some_iff {body tag message : Bytes} :
    exceptionMessageOf body tag = some message ↔
      (∃ data, body = data ++ exceptionFrame tag message) ∧ WellFormedFrame tag message := by
  constructor
  · exact frame_of_exceptionMessageOf
  · intro h
    obtain ⟨⟨data, rfl⟩, hframe⟩ := h
    exact exceptionMessageOf_frame hframe data

end ForensicData.ClickHouse
